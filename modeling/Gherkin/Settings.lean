import Gherkin.NameFilter
import Gherkin.Path.Spec
import Gherkin.Yaml.Value

/-!
# Settings of a run

What to run and how: the features, the filters, the step modules, and the
report.  Settings come from a settings file or from a mapping, and are combined
with the environment: tags, names and step classes are united, and the
environment's features replace the others.  What reads the text of a settings file is
given from outside.
-/

namespace Gherkin

/-- The settings of a run. -/
structure Settings where
  features : List PathSpec := []
  tags : Tag.Filter := {}
  names : Option NameFilter := none
  /-- The names of the step modules. -/
  modules : List String := []
  /-- The names of the step classes to use; all of them if there is none. -/
  classes : Option NameSet := none
  reportPath : Option String := none
  verbose : Bool := false
  failFast : Bool := true

/-- Why there are no settings. -/
inductive SettingsError where
  /-- The settings file is not there. -/
  | missing (path : String)
  /-- The settings file cannot be read. -/
  | file (error : FileError)
  /-- The settings file is malformed, as the reason says. -/
  | malformed (path reason : String)
  /-- Reading the text of the settings file raised a fault. -/
  | raised (fault : Fault)
  /-- The settings are no mapping. -/
  | notMapping (value : Yaml.Value)
  /-- A key is no text, so that it cannot be named in a note. -/
  | unnamedKey
  | notStrings (key : String) (value : Yaml.Value)
  | notString (key : String) (value : Yaml.Value)
  | notTruth (key : String) (value : Yaml.Value)
  /-- A value cannot be shown, for an integer in it has too many digits. -/
  | unshown
  /-- A line number cannot be read. -/
  | line (error : Text.IntegerError)

/-- The wording of a settings error. -/
def SettingsError.message : SettingsError → String
  | missing path => "Config file not found: " ++ path
  | file error => error.message
  | malformed path reason => "Invalid YAML in " ++ path ++ ": " ++ reason
  | raised fault => fault.shown
  | notMapping value => "Configuration must be a mapping, got " ++ value.kind
  | unnamedKey => "keys must be strings"
  | notStrings key value =>
      "'" ++ key ++ "' must be a string or a list of strings, got " ++ value.describe
  | notString key value => "'" ++ key ++ "' must be a string, got " ++ value.describe
  | notTruth key value => "'" ++ key ++ "' must be true or false, got " ++ value.describe
  | unshown => Text.IntegerError.unwritten.message
  | line error => error.message

namespace Settings

/-- The keys that settings can have. -/
def knownKeys : List String :=
  ["features", "tags", "exclude_tags", "scenarios", "steps", "report_path", "verbose",
    "fail_fast"]

/-- The entries of a mapping. -/
abbrev Entries := List (Yaml.Value × Yaml.Value)

/-- A value that a setting holds; nothing counts as absent. -/
def given? (entries : Entries) (key : String) : Option Yaml.Value :=
  match Yaml.Value.find? entries key with
  | some .null => none
  | found => found

/-- The error about a value, which shows the value. -/
def about (value : Yaml.Value) (error : SettingsError) : SettingsError :=
  if value.isShown then error else .unshown

/-- A list of texts; a single text stands for a list of one. -/
def strings (entries : Entries) (key : String) : Except SettingsError (List String) :=
  match given? entries key with
  | none => .ok []
  | some (.string text) => .ok [text]
  | some (.list items) =>
      match items.mapM Yaml.Value.string? with
      | some texts => .ok texts
      | none => .error (about (.list items) (.notStrings key (.list items)))
  | some value => .error (about value (.notStrings key value))

/-- A list of tags; a single text is a comma-separated list. -/
def tagNames (entries : Entries) (key : String) : Except SettingsError Tag.Names :=
  match given? entries key with
  | some (.string text) => .ok (.each (Tag.parseList (some text)).toList)
  | _ => (strings entries key).map .each

/-- A text, if there is one. -/
def string? (entries : Entries) (key : String) : Except SettingsError (Option String) :=
  match given? entries key with
  | none => .ok none
  | some (.string text) => .ok (some text)
  | some value => .error (about value (.notString key value))

/-- A truth value. -/
def truth (entries : Entries) (key : String) (default : Bool) : Except SettingsError Bool :=
  match Yaml.Value.find? entries key with
  | none => .ok default
  | some (.bool value) => .ok value
  | some value => .error (about value (.notTruth key value))

/-- The keys that say nothing; `none` when one of them is no text. -/
def unknownKeys? (entries : Entries) : Option NameSet :=
  let unknown := (entries.map Prod.fst).filter fun key =>
    !(key.string?.any knownKeys.contains)
  (unknown.mapM Yaml.Value.string?).map NameSet.ofList

/-- The note on keys that say nothing. -/
def unknownNotes (keys : NameSet) : List Note :=
  if keys.isEmpty then []
  else
    [{ level := .warning, origin := .config
       text := "Ignoring unknown configuration key(s): " ++ ", ".intercalate keys.toList }]

/-- Settings from the entries of a mapping.  Features are seen from a base
directory. -/
def ofKnown (tree : FileTree) (base : String) (entries : Entries) :
    Except SettingsError Settings := do
  let specs ← strings entries "features"
  let features ← (PathSpec.parseAll tree base specs).mapError .line
  let names ← strings entries "scenarios"
  let reportPath ← string? entries "report_path"
  let included ← tagNames entries "tags"
  let excluded ← tagNames entries "exclude_tags"
  let modules ← strings entries "steps"
  let verbose ← truth entries "verbose" false
  let failFast ← truth entries "fail_fast" true
  return {
    features, modules, reportPath, verbose, failFast
    tags := .ofNames included excluded
    names := if names.isEmpty then none else some (.ofNames names) }

/-- Settings from a value, with the notes that were made. -/
def ofValue (tree : FileTree) (base : String) (value : Yaml.Value) :
    List Note × Except SettingsError Settings :=
  match value with
  | .mapping entries =>
      match unknownKeys? entries with
      | none => ([], .error .unnamedKey)
      | some keys => (unknownNotes keys, ofKnown tree base entries)
  | value => ([], .error (.notMapping value))

/-- The note on a settings file that was read. -/
def readNote (path : String) : Note :=
  { level := .debug, origin := .config, text := "Loaded configuration from " ++ path }

/-- The error about a settings file whose text gives no value. -/
def unread (path : String) : Yaml.Error → SettingsError
  | .malformed reason => .malformed path reason
  | .raised fault => .raised fault

/-- The settings in a file, with the notes that were made.  Features are seen
from the file's directory, and an empty file holds the default settings. -/
def ofFile (read : Yaml.Reader) (tree : FileTree) (path : String) :
    List Note × Except SettingsError Settings :=
  let path := Path.cleanText path
  if !tree.exists? path then ([], .error (.missing path))
  else
    match tree.readText path with
    | .error error => ([], .error (.file error))
    | .ok text =>
        match read text with
        | .error error => ([], .error (unread path error))
        | .ok value =>
            let value := match value with
              | .null => .mapping []
              | value => value
            let (notes, outcome) := ofValue tree (Path.parent path) value
            (readNote path :: notes, outcome)

/-- The names of settings files, in the order in which they are looked for. -/
def fileNames : List String :=
  ["gherkin.yaml", "gherkin.yml", ".gherkin.yaml"]

/-- The settings file of the working directory. -/
def discover? (tree : FileTree) : Option String :=
  fileNames.find? fun name => tree.isFile (Path.resolve tree.workingPath name)

/-- The settings file to use: the given one, or that of the working directory. -/
def file? (tree : FileTree) (path : Option String) : Option String :=
  path.or ((discover? tree).map (Path.resolve tree.workingPath))

/-- The settings in a given file; without one, those of the file in the working
directory, or the default settings. -/
def load (read : Yaml.Reader) (tree : FileTree) (path : Option String) :
    List Note × Except SettingsError Settings :=
  (file? tree path).elim ([], .ok {}) (ofFile read tree)

/-- Settings combined with the environment. -/
def withEnvironment (settings : Settings) (tree : FileTree) (environment : Environment) :
    Except SettingsError Settings := do
  let features ← (PathSpec.ofEnvironment tree environment).mapError .line
  return { settings with
    tags := settings.tags.merge (Tag.Filter.ofEnvironment environment)
    names :=
      match NameFilter.ofEnvironment environment with
      | some names => some (names.merge settings.names)
      | none => settings.names
    features := features.getD settings.features
    classes :=
      match stepClassesOfEnvironment environment with
      | some classes => some (classes.union (settings.classes.getD .empty))
      | none => settings.classes }

end Settings

end Gherkin
