import Gherkin.Proofs.Command.Work
import Gherkin.Proofs.Settings.Typing

/-!
# Where the settings of a call come from

The settings file, the environment and the arguments each give some of the settings.  Tags and
names of all of them are united, and the features are those of the last that gives any.
-/

namespace Gherkin.Command

open Settings (Entries WellTyped assembled tagsOf textsOf)
open Yaml (Value)

variable {w : Type} {read : Yaml.Reader} {arguments : Arguments} {tree : FileTree}
  {environment : Environment}

/-! ## The settings file -/

/-- The settings of a call unite what the entries of the settings file, the environment and the
arguments give. -/
structure Unites (arguments : Arguments) (tree : FileTree) (environment : Environment)
    (directory : String) (entries : Entries) (settings : Settings) : Prop where
  included : ∀ tag, tag ∈ settings.tags.included ↔
    (∃ given ∈ tagsOf (Value.find? entries "tags"), Tag.bareTag given = tag) ∨
      tag ∈ Tag.parseList (environment.find? Tag.Filter.includedVariable) ∨
      tag ∈ Tag.parseList arguments.included
  excluded : ∀ tag, tag ∈ settings.tags.excluded ↔
    (∃ given ∈ tagsOf (Value.find? entries "exclude_tags"), Tag.bareTag given = tag) ∨
      tag ∈ Tag.parseList (environment.find? Tag.Filter.excludedVariable) ∨
      tag ∈ Tag.parseList arguments.excluded
  named : ∀ name, NameFilter.Has settings.names name ↔
    ∃ given, (given ∈ textsOf (Value.find? entries "scenarios") ∨
      given ∈ listedIn environment NameFilter.namesVariable ∨ given ∈ arguments.names) ∧
        foldName given = name
  unnamed : settings.names = none ↔
    textsOf (Value.find? entries "scenarios") = [] ∧
      listedIn environment NameFilter.namesVariable = [] ∧ arguments.names = []
  ofArguments : arguments.paths ≠ [] →
    PathSpec.parseAll tree tree.workingPath arguments.paths = .ok settings.features
  ofEnvironment : arguments.paths = [] →
    (¬∀ c ∈ (PathSpec.featuresText environment).toList, Text.isBlank c) →
      PathSpec.parseList tree tree.workingPath (PathSpec.featuresText environment) =
        .ok settings.features
  ofFile : arguments.paths = [] →
    (∀ c ∈ (PathSpec.featuresText environment).toList, Text.isBlank c) →
      PathSpec.parseAll tree directory (textsOf (Value.find? entries "features")) =
        .ok settings.features
  unrestricted : settings.classes = none ↔ listedIn environment stepClassVariable = []
  restricted : ∀ classes ∈ settings.classes, ∀ name,
    name ∈ classes ↔ name ∈ listedIn environment stepClassVariable

section Stages

variable {directory : String} {entries : Entries} {features : List PathSpec}
  {specs : Option (List PathSpec)} {chosen : List PathSpec}

end Stages

end Gherkin.Command
