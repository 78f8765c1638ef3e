import Gherkin.Document.Reader
import Gherkin.Path.Spec

/-!
# Loading features

The files that path specs name are read in the order in which they are first
named, each of them once.  The lines of all specs that name a file are united,
and a spec without lines selects the whole file.
-/

namespace Gherkin

/-- Why features could not be loaded. -/
inductive LoadError where
  /-- A document cannot be read. -/
  | document (error : Document.Error)
  /-- A file cannot be read. -/
  | file (error : FileError)
  deriving Repr, DecidableEq

/-- The wording of a load error. -/
def LoadError.message : LoadError → String
  | document error => error.message
  | file error => error.message

/-- Features that were read, and the errors of the documents that were not. -/
structure Batch where
  features : List Feature := []
  errors : Record Document.Error := []
  deriving DecidableEq

namespace Batch

/-- Whether all documents could be read. -/
def ok (batch : Batch) : Bool :=
  batch.errors.isEmpty

/-- Read the document in a file. -/
def readFile (tree : FileTree) (path : String) :
    Except FileError (Except Document.Error Feature) :=
  (tree.readText path).map fun text => Document.read text (some path)

/-- The note on a document that was read. -/
def readNote (feature : Feature) : Note :=
  { level := .debug, origin := .document
    text := "Parsed feature " ++ Text.quoted feature.name ++ " from " ++
      ((feature.source.filter fun source => !source.isEmpty).getD "<string>") ++ " (" ++
      toString feature.definitions.length ++ " definitions)" }

/-- The note on a document that was passed over. -/
def skipNote (path : String) (error : Document.Error) : Note :=
  { level := .warning, origin := .document
    text := "Skipping " ++ path ++ ": " ++ error.message }

/-- Read files one after the other, after what was read before.  The first
error ends reading if it is to fail fast; a file that cannot be read always
does. -/
def readFrom (tree : FileTree) (failFast : Bool) (batch : Batch) :
    List String → List Note × Except LoadError Batch
  | [] => ([], .ok batch)
  | path :: rest =>
      match readFile tree path with
      | .error error => ([], .error (.file error))
      | .ok (.error error) =>
          if failFast then ([], .error (.document error))
          else
            let (notes, outcome) :=
              readFrom tree failFast { batch with errors := batch.errors.set path error } rest
            (skipNote path error :: notes, outcome)
      | .ok (.ok feature) =>
          let (notes, outcome) :=
            readFrom tree failFast { batch with features := batch.features ++ [feature] } rest
          (readNote feature :: notes, outcome)

/-- Read files one after the other, given by clean paths. -/
def readAll (tree : FileTree) (failFast : Bool) (paths : List String) :
    List Note × Except LoadError Batch :=
  readFrom tree failFast {} (paths.map Path.cleanText)

end Batch

/-- The lines that were asked for in a file: all of it, or some. -/
inductive LineChoice where
  | everything
  | lines (lines : List Int)
  deriving Repr, DecidableEq

namespace LineChoice

/-- The choice that lines of a path spec make. -/
def ofLines (lines : List Int) : LineChoice :=
  if lines.isEmpty then .everything else .lines lines

/-- Unite two choices. -/
def union : LineChoice → LineChoice → LineChoice
  | lines a, lines b => lines (a ++ b)
  | _, _ => everything

/-- Put a line into its place in an increasing list. -/
def insertLine (line : Int) : List Int → List Int
  | [] => [line]
  | head :: rest =>
      if line < head then line :: head :: rest
      else if line = head then head :: rest
      else head :: insertLine line rest

/-- The lines of a choice in order, each once; none for all of the file. -/
def toList : LineChoice → List Int
  | everything => []
  | lines numbers => numbers.foldr insertLine []

end LineChoice

/-- A feature with the lines that were asked for. -/
structure LoadedFeature where
  feature : Feature
  lines : List Int := []
  deriving DecidableEq

/-- Features that were loaded, and the errors of the files that were not. -/
structure Load where
  features : List LoadedFeature := []
  errors : Record Document.Error := []
  deriving DecidableEq

namespace Load

/-- Whether all files could be loaded. -/
def ok (load : Load) : Bool :=
  load.errors.isEmpty

/-- Add a file that is asked for. -/
def addFile (choice : LineChoice) : Record LineChoice → String → Record LineChoice
  | [], path => [(path, choice)]
  | (key, before) :: rest, path =>
      if key = path then (key, before.union choice) :: rest
      else (key, before) :: addFile choice rest path

/-- Every file that the specs name, in the order in which it is first named,
with the lines that are asked for. -/
def choices (tree : FileTree) (specs : List PathSpec) : Record LineChoice :=
  specs.foldl
    (fun record spec => (spec.files tree).foldl (addFile (.ofLines spec.lines)) record) []

/-- The note on a feature that was loaded. -/
def loadedNote (feature : Feature) : Note :=
  { level := .debug, origin := .paths
    text := "Loaded " ++ feature.source.getD "None" ++ " (" ++
      toString feature.definitions.length ++ " scenario(s))" }

/-- Combine the features that were read with the lines that were asked for. -/
def ofBatch (choices : Record LineChoice) (batch : Batch) : Load :=
  { features := batch.features.map fun feature =>
      { feature
        lines := (((feature.source.bind choices.find?).map LineChoice.toList).getD []) }
    errors := batch.errors }

/-- Load the features that path specs name. -/
def ofSpecs (tree : FileTree) (failFast : Bool) (specs : List PathSpec) :
    List Note × Except LoadError Load :=
  let chosen := choices tree specs
  let directoryNotes := specs.flatMap fun spec => spec.notes tree
  let (notes, outcome) := Batch.readFrom tree failFast {} (chosen.map Prod.fst)
  match outcome with
  | .error error => (directoryNotes ++ notes, .error error)
  | .ok batch =>
      (directoryNotes ++ notes ++ batch.features.map loadedNote,
        .ok (ofBatch chosen batch))

end Load

end Gherkin
