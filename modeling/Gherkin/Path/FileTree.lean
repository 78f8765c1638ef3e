import Gherkin.Path.Text
import Gherkin.Text.Quoted

/-!
# Files

The files that can be read, as a tree of directories.  A path is followed name
by name from a working directory; names lead only through directories.
-/

namespace Gherkin

/-- The files and directories that can be seen, by their absolute names. -/
structure FileTree where
  /-- The names of the working directory. -/
  workingDirectory : List String := []
  directories : List (List String) := []
  files : List (List String × ByteArray) := []

/-- What a path leads to. -/
inductive Found where
  | directory (names : List String)
  | file (names : List String) (content : ByteArray)
  /-- A name does not exist. -/
  | missing
  /-- A name is looked for in something that is no directory. -/
  | notInDirectory

namespace FileTree

/-- The working directory as a path. -/
def workingPath (tree : FileTree) : String :=
  "/" ++ "/".intercalate tree.workingDirectory

/-- Whether the names are those of a directory. -/
def isDirectoryAt (tree : FileTree) (names : List String) : Bool :=
  names.isEmpty || tree.directories.contains names

/-- Follow names from a directory. -/
def walk (tree : FileTree) : List String → List String → Found
  | here, [] => .directory here
  | here, name :: rest =>
      if name == ".." then tree.walk here.dropLast rest
      else
        let there := here ++ [name]
        if tree.isDirectoryAt there then tree.walk there rest
        else
          match tree.files.lookup there with
          | some content => if rest.isEmpty then .file there content else .notInDirectory
          | none => .missing

/-- Follow a path. -/
def find (tree : FileTree) (path : String) : Found :=
  let cs := path.toList
  let names := (Path.names cs).map String.ofList
  if cs.isEmpty then .missing
  else tree.walk (if (Path.rootOf cs).isEmpty then tree.workingDirectory else []) names

/-- Whether a path leads to a directory. -/
def isDirectory (tree : FileTree) (path : String) : Bool :=
  match tree.find path with
  | .directory _ => true
  | _ => false

/-- Whether a path leads to a file. -/
def isFile (tree : FileTree) (path : String) : Bool :=
  match tree.find path with
  | .file _ _ => true
  | _ => false

/-- Whether a path leads anywhere. -/
def exists? (tree : FileTree) (path : String) : Bool :=
  tree.isDirectory path || tree.isFile path

/-- Whether one list of names comes before another, name by name. -/
def namesLe : List String → List String → Bool
  | [], _ => true
  | _ :: _, [] => false
  | a :: as, b :: bs => if a = b then namesLe as bs else decide (a < b)

/-- The names that follow a beginning. -/
def below : List String → List String → Option (List String)
  | [], names => some names
  | _ :: _, [] => none
  | a :: as, b :: bs => if a = b then below as bs else none

/-- The files below a directory whose last name has a given ending, by their
names seen from there, in order. -/
def filesBelow (tree : FileTree) (directory : List String) (ending : String) :
    List (List String) :=
  ((tree.files.filterMap fun (names, _) => below directory names).filter fun names =>
    names.getLast?.any fun last => last.endsWith ending).mergeSort namesLe

end FileTree

/-- Why a file could not be read. -/
inductive FileError where
  /-- There is no such file. -/
  | missing (path : String)
  /-- A directory cannot be read. -/
  | isDirectory (path : String)
  /-- A file was taken for a directory. -/
  | notDirectory (path : String)
  /-- A directory cannot be made, because a file has its name. -/
  | inTheWay (path : String)
  /-- The content is no text. -/
  | notText (path : String)
  deriving Repr, DecidableEq

/-- The wording of a file error; the path is shown between quotes. -/
def FileError.message : FileError → String
  | missing path => "[Errno 2] No such file or directory: " ++ Text.quoted path
  | isDirectory path => "[Errno 21] Is a directory: " ++ Text.quoted path
  | notDirectory path => "[Errno 20] Not a directory: " ++ Text.quoted path
  | inTheWay path => "[Errno 17] File exists: " ++ Text.quoted path
  | notText path => "not a text file: " ++ Text.quoted path

/-- Why a file cannot be written together with the directories that lead to
it. -/
def FileTree.writeProblem? (tree : FileTree) (path : String) : Option FileError :=
  let path := Path.cleanText path
  match tree.find path, tree.find (Path.parent path) with
  | .directory _, _ => some (.isDirectory path)
  | .file _ _, _ => none
  | _, .file _ _ => some (.inTheWay (Path.parent path))
  | _, .notInDirectory => some (.notDirectory (Path.parent path))
  | _, _ => none

/-- Read a file as text.  Every kind of line break counts as a line feed. -/
def FileTree.readText (tree : FileTree) (path : String) : Except FileError String :=
  match tree.find path with
  | .missing => .error (.missing path)
  | .notInDirectory => .error (.notDirectory path)
  | .directory _ => .error (.isDirectory path)
  | .file _ content =>
      match String.fromUTF8? content with
      | none => .error (.notText path)
      | some text => .ok (String.ofList (Text.normalizeBreaks text.toList))

end Gherkin
