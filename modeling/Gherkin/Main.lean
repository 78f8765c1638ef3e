import Gherkin.Command
import Gherkin.Counter.Description
import Gherkin.Json.Reader
import Gherkin.Yaml.Reader
import Std.Time.DateTime.Timestamp

/-!
# The command line

The program as it is called: it reads the files below the working directory,
does its work on them, and writes what the work says.  Step modules are described
by a document in the working directory.
-/

namespace Gherkin.Main

/-- The document that describes the step modules. -/
def modulesFile : String := "gherkin-steps.json"

/-- The variables that are looked at. -/
def variableNames : List String :=
  [Tag.Filter.includedVariable, Tag.Filter.excludedVariable, NameFilter.namesVariable,
    PathSpec.featuresVariable, stepClassVariable, "USER", "USERNAME"]

/-- The values of the variables that are set. -/
def environment : IO Environment := do
  let mut values : Environment := []
  for name in variableNames do
    match ← IO.getEnv name with
    | some value => values := values ++ [(name, value)]
    | none => pure ()
  return values

/-- Add what is below a directory to a tree. -/
partial def addBelow (names : List String) (tree : FileTree) : IO FileTree := do
  let mut tree := { tree with directories := tree.directories ++ [names] }
  let directory ← IO.FS.realPath ("/" ++ "/".intercalate names)
  for entry in ← directory.readDir do
    let there := names ++ [entry.fileName]
    if ← entry.path.isDir then
      tree ← addBelow there tree
    else
      let content ← try IO.FS.readBinFile entry.path catch _ => pure ByteArray.empty
      tree := { tree with files := tree.files ++ [(there, content)] }
  return tree

/-- The working directory, and what is below it. -/
def readTree : IO FileTree := do
  let here ← IO.currentDir
  let names := (Path.names here.toString.toList).map String.ofList
  let above := (List.range names.length).map names.take
  addBelow names { workingDirectory := names, directories := above }

/-- The step modules that are described in the working directory. -/
def readModules (tree : FileTree) : List (StepModule Counter.Code Counter.World) × Counter.Library :=
  let document := (tree.readText modulesFile).toOption.bind Json.read?
  let modules := (document.map fun json => json.itemsAt "modules").getD []
  (Counter.readModules? modules).getD ([], {})

/-- Where and when the program is called. -/
def readMachine : IO Machine := do
  let now ← Std.Time.Timestamp.now
  let host ← try IO.FS.readFile "/etc/hostname" catch _ => pure "localhost"
  return {
    now := ⟨now.toNanosecondsSinceUnixEpoch.val / 1000⟩
    host := String.ofList (Text.trim host.toList)
    platform := "linux"
    environment := ← environment }

/-- Write a report, with the directories that lead to it. -/
def writeReport (path text : String) : IO Unit := do
  IO.FS.createDirAll (Path.parent path)
  IO.FS.writeFile path text

end Gherkin.Main

open Gherkin in
/-- Call the program. -/
def main (arguments : List String) : IO UInt32 := do
  -- Patterns refer to no character by its name.
  let _ : Pattern.CharNames := .empty
  let tree ← Main.readTree
  let (modules, library) := Main.readModules tree
  let outcome := Command.call
    { tree, machine := ← Main.readMachine, modules
      read := Yaml.reader "the text cannot be read"
      make := Counter.make
      perform := Counter.perform library.definitions
      world := ({} : Counter.World) } arguments
  let written := outcome.progress.written
  written.output.forM IO.println
  written.errors.forM IO.eprintln
  match written.report with
  | some (path, text) => Main.writeReport path text
  | none => pure ()
  match outcome.ending with
  | .ok code => return UInt32.ofNat code
  | .error problem =>
      IO.eprintln problem.message
      return 1
