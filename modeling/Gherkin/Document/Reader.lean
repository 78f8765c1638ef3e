import Gherkin.Document.Error
import Gherkin.Document.Line
import Gherkin.Document.Row
import Gherkin.Text.Lines

/-!
# Reading documents

A document is read line by line.  The reader's state says where in the
document it stands, and holds for that place exactly what is still open there:
a step that may take rows or a doc string, a block of examples, a doc string.
Whether something can be attached is thus decided by the shape of the state.
-/

namespace Gherkin.Document

/-- What a block of steps belongs to. -/
inductive BlockKind where
  | background
  | scenario
  | outline
  deriving Repr, DecidableEq

/-- The last step of a block while it can still take an argument, with the
rows it has taken so far. -/
structure OpenStep where
  step : Step
  rows : List (List String) := []
  deriving Repr, DecidableEq

/-- A background, scenario or outline whose end has not been seen. -/
structure Block where
  kind : BlockKind
  name : String
  tags : List String
  line : Int
  /-- The steps that take no further argument. -/
  settled : List Step := []
  /-- The last step, if it may still take an argument. -/
  last : Option OpenStep := none
  /-- The blocks of examples that are complete. -/
  examples : List Examples := []
  deriving Repr, DecidableEq

/-- Examples whose end has not been seen; the first row is the header. -/
structure OpenExamples where
  tags : List String
  line : Int
  rows : List (List String) := []
  deriving Repr, DecidableEq

/-- A doc string whose closing fence has not been seen. -/
structure OpenDocString where
  fence : Fence
  indent : List Char
  contentType : Option String
  line : Int
  content : List (List Char) := []
  deriving Repr, DecidableEq

/-- A feature whose end has not been seen. -/
structure OpenFeature where
  name : String
  line : Int
  tags : List String
  description : List String := []
  background : Option Background := none
  definitions : List Definition := []
  deriving Repr, DecidableEq

/-- Where the reader stands. -/
inductive Place where
  /-- Before the feature. -/
  | outside
  /-- Under the feature's name, before the first block. -/
  | intro (feature : OpenFeature)
  /-- In a block of steps. -/
  | steps (feature : OpenFeature) (block : Block)
  /-- In the examples of an outline. -/
  | examples (feature : OpenFeature) (block : Block) (table : OpenExamples)
  /-- In a doc string of the given step, which follows the steps of the
  block. -/
  | docString (feature : OpenFeature) (block : Block) (step : Step) (doc : OpenDocString)
  deriving Repr, DecidableEq

/-- Tags that wait for the header they belong to, and the line of the first of
them. -/
structure PendingTags where
  line : Int
  tags : List String
  deriving Repr, DecidableEq

/-- The state of reading. -/
structure Reader where
  place : Place := .outside
  pending : Option PendingTags := none
  deriving Repr, DecidableEq

/-- A step with the rows it has taken. -/
def OpenStep.close (openStep : OpenStep) : Step :=
  if openStep.rows.isEmpty then openStep.step
  else { openStep.step with table := some ⟨openStep.rows⟩ }

namespace Block

/-- All steps of the block so far. -/
def steps (block : Block) : List Step :=
  block.settled ++ (block.last.map OpenStep.close).toList

/-- End the table under the last step, if there is one. -/
def endTable (block : Block) : Block :=
  match block.last with
  | some openStep =>
      if openStep.rows.isEmpty then block
      else { block with settled := block.settled ++ [openStep.close], last := none }
  | none => block

/-- What the last step stands for. -/
def previous (block : Block) : Option Keyword :=
  block.steps.getLast?.map Step.resolved

/-- Add a step; the one before it takes no further argument. -/
def addStep (block : Block) (step : Step) : Block :=
  { block with settled := block.steps, last := some { step } }

end Block

/-- Complete examples. -/
def OpenExamples.close (table : OpenExamples) : Examples :=
  { header := table.rows.headD [], rows := table.rows.drop 1,
    tags := table.tags, line := table.line }

namespace OpenFeature

/-- Add a complete block to the feature.  An outline must have examples. -/
def addBlock (feature : OpenFeature) (block : Block) : Except Error OpenFeature :=
  match block.kind with
  | .background =>
      .ok { feature with background := some { steps := block.steps, line := block.line } }
  | .scenario =>
      .ok { feature with
        definitions := feature.definitions ++
          [.scenario
            { name := block.name, tags := block.tags, steps := block.steps,
              line := block.line }] }
  | .outline =>
      if block.examples.isEmpty then
        .error { cause := .noExamples block.name, line := block.line }
      else
        .ok { feature with
          definitions := feature.definitions ++
            [.outline
              { name := block.name, tags := block.tags, steps := block.steps,
                examples := block.examples, line := block.line }] }

end OpenFeature

namespace OpenDocString

/-- A content line: the fence's indentation is removed, or all indentation if
the line does not have it, and escaped fences are resolved. -/
def contentLine (doc : OpenDocString) (raw : List Char) : List Char :=
  Text.replace doc.fence.escaped doc.fence.text
    ((Text.dropPrefix? doc.indent raw).getD (Text.trimStart raw))

/-- The complete doc string. -/
def close (doc : OpenDocString) : DocString :=
  { content := String.ofList (Text.join ['\n'] doc.content)
    contentType := doc.contentType }

end OpenDocString

namespace Place

/-- End the table at the reader's place, if there is one. -/
def endTable : Place → Place
  | .steps feature block => .steps feature block.endTable
  | place => place

/-- End everything that is open in the feature.  There is no feature to end
before its header, and a doc string must have been closed. -/
def close : Place → Except Error (Option OpenFeature)
  | .outside => .ok none
  | .intro feature => .ok (some feature)
  | .steps feature block => (feature.addBlock block).map some
  | .examples feature block table =>
      (feature.addBlock
        { block with examples := block.examples ++ [table.close] }).map some
  | .docString _ _ _ doc => .error { cause := .openDocString, line := doc.line }

end Place

/-- A tag is an at sign and a word over letters, digits, underscore and
hyphen, all of ASCII. -/
def tagName? (word : String) : Option String :=
  match word.toList with
  | '@' :: name =>
      if !name.isEmpty && name.all fun c => c.isAlphanum || c == '_' || c == '-' then
        some (String.ofList name)
      else none
  | _ => none

/-- The tags of a tag line, or the first word that is no tag. -/
def tagNames : List String → Except Cause (List String)
  | [] => .ok []
  | word :: words =>
      match tagName? word with
      | none => .error (.invalidTag word)
      | some name => (tagNames words).map (name :: ·)

namespace Reader

/-- The tags that wait for a header. -/
def pendingTags (reader : Reader) : List String :=
  (reader.pending.map PendingTags.tags).getD []

/-- A reader without waiting tags. -/
def start (place : Place) : Reader :=
  { place }

/-- Read a tag line. -/
def readTags (reader : Reader) (line : Int) (words : List String) : Except Error Reader :=
  match tagNames words with
  | .error cause => .error { cause, line }
  | .ok tags =>
      .ok { reader with
        pending := some
          { line := (reader.pending.map PendingTags.line).getD line
            tags := reader.pendingTags ++ tags } }

/-- Rows of one table have the same number of cells. -/
def checkRow (line : Int) (cells : List String) : List (List String) → Except Error Unit
  | [] => .ok ()
  | first :: _ =>
      if cells.length = first.length then .ok ()
      else .error { cause := .unevenRow first.length cells.length, line }

/-- Read a table row. -/
def readRow (reader : Reader) (line : Int) (rest : List Char) : Except Error Reader :=
  match Row.read? rest with
  | none => .error { cause := .openRow, line }
  | some cells =>
      match reader.place with
      | .examples feature block table =>
          (checkRow line cells table.rows).map fun _ =>
            { reader with
              place := .examples feature block { table with rows := table.rows ++ [cells] } }
      | .steps feature block =>
          match block.last with
          | none => .error { cause := .strayRow, line }
          | some openStep =>
              (checkRow line cells openStep.rows).map fun _ =>
                { reader with
                  place := .steps feature
                    { block with
                      last := some { openStep with rows := openStep.rows ++ [cells] } } }
      | _ => .error { cause := .strayRow, line }

/-- Read the opening fence of a doc string. -/
def readFence (reader : Reader) (line : Int) (fence : Fence) (indent : List Char)
    (contentType : Option String) : Except Error Reader :=
  match reader.place with
  | .steps feature block =>
      match block.last with
      | none => .error { cause := .strayDocString, line }
      | some openStep =>
          .ok { reader with
            place := .docString feature { block with last := none } openStep.step
              { fence, indent, contentType, line } }
  | _ => .error { cause := .strayDocString, line }

/-- Read a line of a doc string: its closing fence or a line of content. -/
def readDocLine (reader : Reader) (feature : OpenFeature) (block : Block) (step : Step)
    (doc : OpenDocString) (raw : List Char) : Reader :=
  if Text.trim raw = doc.fence.text then
    { reader with
      place := .steps feature
        { block with settled := block.settled ++ [{ step with doc := some doc.close }] } }
  else
    { reader with
      place := .docString feature block step
        { doc with content := doc.content ++ [doc.contentLine raw] } }

/-- Read the feature's header. -/
def readFeature (reader : Reader) (line : Int) (name : String) : Except Error Reader :=
  match reader.place with
  | .outside =>
      if name.isEmpty then .error { cause := .unnamedFeature, line }
      else .ok (start (.intro { name, line, tags := reader.pendingTags }))
  | .intro feature | .steps feature _ | .examples feature _ _ | .docString feature _ _ _ =>
      .error { cause := .secondFeature feature.line, line }

/-- Why no background can stand after the given blocks. -/
def backgroundProblem (feature : OpenFeature) (inBackground : Bool) : Cause :=
  if feature.background.isSome || inBackground then .secondBackground else .lateBackground

/-- Read the header of a background. -/
def readBackground (reader : Reader) (line : Int) (keyword : String) :
    Except Error Reader :=
  match reader.place, reader.pending with
  | .outside, _ => .error { cause := .beforeFeature keyword, line }
  | _, some pending => .error { cause := .taggedBackground, line := pending.line }
  | .intro feature, none =>
      .ok (start (.steps feature { kind := .background, name := "", tags := [], line }))
  | .steps feature block, none =>
      .error { cause := backgroundProblem feature (block.kind == .background), line }
  | .examples feature _ _, none | .docString feature _ _ _, none =>
      .error { cause := backgroundProblem feature false, line }

/-- Read the header of a scenario or an outline. -/
def readScenario (reader : Reader) (line : Int) (kind : BlockKind)
    (keyword name : String) : Except Error Reader :=
  match reader.place.close with
  | .error error => .error error
  | .ok none => .error { cause := .beforeFeature keyword, line }
  | .ok (some feature) =>
      .ok (start (.steps feature { kind, name, tags := reader.pendingTags, line }))

/-- Read the header of examples. -/
def readExamples (reader : Reader) (line : Int) : Except Error Reader :=
  let table : OpenExamples := { tags := reader.pendingTags, line }
  match reader.place with
  | .steps feature block =>
      if block.kind = .outline then
        .ok (start (.examples feature { block with settled := block.steps, last := none } table))
      else .error { cause := .strayExamples, line }
  | .examples feature block before =>
      .ok (start (.examples feature
        { block with examples := block.examples ++ [before.close] } table))
  | _ => .error { cause := .strayExamples, line }

/-- Read a step. -/
def readStep (reader : Reader) (line : Int) (keyword : Keyword) (text whole : String) :
    Except Error Reader :=
  match reader.pending with
  | some pending => .error { cause := .taggedStep, line := pending.line }
  | none =>
      match reader.place with
      | .steps feature block =>
          .ok (start (.steps feature
            (block.addStep
              { keyword, text, resolved := keyword.resolve block.previous, line })))
      | .examples _ _ _ => .error { cause := .stepAfterExamples, line }
      | _ => .error { cause := .strayStep whole, line }

/-- Read free text.  It is kept under the feature's name, and passed over
under the header of a block. -/
def readText (reader : Reader) (line : Int) (whole : String) : Except Error Reader :=
  match reader.place with
  | .outside => .error { cause := .expectedFeature whole, line }
  | .intro feature =>
      .ok { reader with
        place := .intro { feature with description := feature.description ++ [whole] } }
  | .steps _ block =>
      if block.steps.isEmpty then .ok reader
      else .error { cause := .strayText whole, line }
  | .examples _ _ table =>
      if table.rows.isEmpty then .ok reader
      else .error { cause := .strayText whole, line }
  | .docString _ _ _ _ => .error { cause := .strayText whole, line }

/-- Read a line that is neither blank nor a row; a table before it is
complete. -/
def readOther (reader : Reader) (line : Int) : Line → Except Error Reader
  | .blank | .row _ => .ok reader
  | .tags words => reader.readTags line words
  | .fence fence indent contentType => reader.readFence line fence indent contentType
  | .header .feature _ name => reader.readFeature line name
  | .header .background keyword _ => reader.readBackground line keyword
  | .header .outline keyword name => reader.readScenario line .outline keyword name
  | .header .scenario keyword name => reader.readScenario line .scenario keyword name
  | .header .examples _ _ => reader.readExamples line
  | .step keyword text whole => reader.readStep line keyword text whole
  | .text whole => reader.readText line whole

/-- Read a line outside doc strings. -/
def readLine (reader : Reader) (line : Int) : Line → Except Error Reader
  | .blank => .ok reader
  | .row rest => reader.readRow line rest
  | other => { reader with place := reader.place.endTable }.readOther line other

/-- Read the next line of the document. -/
def next (reader : Reader) (line : Int) (raw : List Char) : Except Error Reader :=
  match reader.place with
  | .docString feature block step doc =>
      .ok (reader.readDocLine feature block step doc raw)
  | _ => reader.readLine line (Line.classify raw)

/-- Read lines, the first of which has the given number. -/
def readLines (reader : Reader) (line : Int) : List (List Char) → Except Error Reader
  | [] => .ok reader
  | raw :: rest =>
      match reader.next line raw with
      | .error error => .error error
      | .ok reader => reader.readLines (line + 1) rest

/-- End the document after the given number of lines. -/
def finish (reader : Reader) (count : Nat) : Except Error OpenFeature :=
  match reader.place, reader.pending with
  | .docString _ _ _ doc, _ => .error { cause := .openDocString, line := doc.line }
  | _, some pending => .error { cause := .danglingTags, line := pending.line }
  | place, none =>
      match place.close with
      | .error error => .error error
      | .ok none => .error { cause := .noFeature, line := max count 1 }
      | .ok (some feature) => .ok feature

end Reader

/-- Read the lines of a document. -/
def readDocument (lines : List (List Char)) : Except Error OpenFeature :=
  match ({} : Reader).readLines 1 lines with
  | .error error => .error error
  | .ok reader => reader.finish lines.length

/-- Read a document.  The source is kept in the feature and in errors. -/
def read (text : String) (source : Option String := none) : Except Error Feature :=
  match readDocument (Text.lines (Text.dropMark text.toList)) with
  | .error error => .error { error with source }
  | .ok feature =>
      .ok
        { name := feature.name, description := feature.description, tags := feature.tags,
          background := feature.background, definitions := feature.definitions, source }

end Gherkin.Document
