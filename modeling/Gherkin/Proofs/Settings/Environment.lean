import Gherkin.Proofs.NameFilter
import Gherkin.Proofs.Path.Spec
import Gherkin.Proofs.Tag.Filter
import Gherkin.Settings

/-!
# Settings combined with the environment

What the environment gives joins the settings once: combining again changes nothing.
-/

namespace Gherkin.Settings

/-- The names of step classes to use, when the environment names more. -/
def joinedClasses (environment : Environment) (classes : Option NameSet) : Option NameSet :=
  match stepClassesOfEnvironment environment with
  | some named => some (named.union (classes.getD .empty))
  | none => classes

/-- Settings with what the environment gives, when its features have been read. -/
def joined (settings : Settings) (environment : Environment) (features : Option (List PathSpec)) :
    Settings :=
  { settings with
    tags := settings.tags.merge (Tag.Filter.ofEnvironment environment)
    names := NameFilter.extend settings.names (listedIn environment NameFilter.namesVariable)
    features := features.getD settings.features
    classes := joinedClasses environment settings.classes }

theorem withEnvironment_eq (settings : Settings) (tree : FileTree) (environment : Environment) :
    settings.withEnvironment tree environment =
      ((PathSpec.ofEnvironment tree environment).mapError .line).map
        (settings.joined environment) := by
  rw [withEnvironment, NameFilter.ofEnvironment_eq]
  cases PathSpec.ofEnvironment tree environment with
  | error error => rfl
  | ok features =>
      refine congrArg Except.ok ?_
      rw [joined, NameFilter.extend]
      cases (listedIn environment NameFilter.namesVariable).isEmpty <;> rfl

/-- Only the features of what is combined with the environment may be others. -/
theorem exists_joined_of_withEnvironment {settings combined : Settings} {tree : FileTree}
    {environment : Environment}
    (ended : settings.withEnvironment tree environment = .ok combined) :
    ∃ features, PathSpec.ofEnvironment tree environment = .ok features ∧
      combined = settings.joined environment features := by
  rw [withEnvironment_eq] at ended
  cases read : PathSpec.ofEnvironment tree environment with
  | error error =>
      rw [read] at ended
      contradiction
  | ok features =>
      rw [read] at ended
      exact ⟨features, rfl, (Except.ok.inj ended).symm⟩

theorem modules_of_withEnvironment {settings combined : Settings} {tree : FileTree}
    {environment : Environment}
    (ended : settings.withEnvironment tree environment = .ok combined) :
    combined.modules = settings.modules := by
  obtain ⟨features, -, rfl⟩ := exists_joined_of_withEnvironment ended
  rfl

end Gherkin.Settings
