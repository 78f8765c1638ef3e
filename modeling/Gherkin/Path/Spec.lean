import Gherkin.Note
import Gherkin.Path.FileTree
import Gherkin.Tag.Filter
import Gherkin.Text.Integer

/-!
# Path specs

A path spec names a feature file or a directory of them, and may go on with
line numbers after colons.  A component after a colon is a line number when it
consists of digits and is positive; every other component belongs to the path.
-/

namespace Gherkin

/-- What a path spec says. -/
structure PathSpec where
  /-- The path, in normal form. -/
  path : String
  /-- The lines to select; none select everything. -/
  lines : List Int := []
  isDirectory : Bool := false
  deriving Repr, DecidableEq

namespace PathSpec

/-- Sort the components after the first into lines and further text of the
path. -/
def components : List (List Char) → Except Text.IntegerError (List Char × List Int)
  | [] => .ok ([], [])
  | component :: rest => do
      let asText : Except Text.IntegerError (List Char × List Int) := do
        let (text, lines) ← components rest
        return (':' :: component ++ text, lines)
      if !component.isEmpty && component.all Text.isDigit then
        let n ← Text.readInteger (String.ofList component)
        if 0 < n then
          let (text, lines) ← components rest
          return (text, n :: lines)
        else asText
      else asText

/-- Read a path spec as seen from a directory; `none` if it is blank. -/
def parse (tree : FileTree) (base raw : String) :
    Except Text.IntegerError (Option PathSpec) :=
  match Text.splitAt ':' (Text.trim raw.toList) with
  | [] | [[]] => .ok none
  | first :: rest => do
      let (text, lines) ← components rest
      let part := first ++ text
      let path := Path.resolve base (String.ofList part)
      return some
        { path, lines
          isDirectory := part.getLast? == some '/' || tree.isDirectory path }

/-- Read several path specs; blank ones are passed over. -/
def parseAll (tree : FileTree) (base : String) :
    List String → Except Text.IntegerError (List PathSpec)
  | [] => .ok []
  | raw :: rest => do
      let spec ← parse tree base raw
      let specs ← parseAll tree base rest
      return spec.toList ++ specs

/-- Read a list of path specs with white space between them. -/
def parseList (tree : FileTree) (base text : String) :
    Except Text.IntegerError (List PathSpec) :=
  parseAll tree base ((Text.words text.toList).map String.ofList)

/-- The variable that path specs are read from. -/
def featuresVariable : String := "GHERKIN_FEATURES"

/-- The path specs of the environment; `none` when it gives none. -/
def ofEnvironment (tree : FileTree) (environment : Environment) :
    Except Text.IntegerError (Option (List PathSpec)) := do
  let specs ← parseList tree tree.workingPath ((environment.find? featuresVariable).getD "")
  return if specs.isEmpty then none else some specs

/-- A path spec as it is written. -/
def format (spec : PathSpec) : Except Text.IntegerError String := do
  let lines ← spec.lines.mapM Text.writeInteger
  return ":".intercalate (spec.path :: lines)

/-- The ending of a feature file's name. -/
def featureEnding : String := ".feature"

/-- A path below a directory. -/
def below (directory : String) (names : List String) : String :=
  Path.cleanText
    (String.ofList (Path.append directory.toList ("/".intercalate names).toList))

/-- The files of a path spec: the file itself, or the feature files below the
directory. -/
def files (spec : PathSpec) (tree : FileTree) : List String :=
  if spec.isDirectory then
    match tree.find spec.path with
    | .directory names => (tree.filesBelow names featureEnding).map (below spec.path)
    | _ => []
  else [Path.cleanText spec.path]

/-- The note on a directory that is not there. -/
def notes (spec : PathSpec) (tree : FileTree) : List Note :=
  if spec.isDirectory && !tree.isDirectory spec.path then
    [{ level := .warning, origin := .paths
       text := "Feature directory not found: " ++ Path.cleanText spec.path }]
  else []

end PathSpec

end Gherkin
