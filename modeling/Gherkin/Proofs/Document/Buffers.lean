import Gherkin.Document.Reader

/-!
# A reader of loose buffers

The same document can be read with a state of independent buffers: a mode, a block, a
table, a doc string, each of which may or may not be there.  In such a state a handler
can find a buffer missing that it needs; it then fails with a fault instead of an error
of the document.  That no fault can occur has to be proved.
-/

namespace Gherkin.Document

/-- What the buffered reader is in. -/
inductive Mode where
  | idle
  | feature
  | background
  | scenario
  | outline
  | examples
  | docString
  deriving Repr, DecidableEq

/-- Whether step lines and their arguments are accepted. -/
def Mode.takesSteps : Mode → Bool
  | background | scenario | outline => true
  | idle | feature | examples | docString => false

/-- A background, scenario or outline under construction. -/
structure BlockBuffer where
  mode : Mode
  name : String
  tags : List String
  line : Int
  steps : List Step := []
  examples : List Examples := []
  /-- What conjunctions repeat. -/
  lastKeyword : Option Keyword := none
  /-- Whether the last step can still take an argument. -/
  acceptsArgument : Bool := false
  deriving Repr, DecidableEq

/-- A doc string under construction, and the mode to go back to. -/
structure DocBuffer extends OpenDocString where
  resume : Mode
  deriving Repr, DecidableEq

/-- The state of the buffered reader.  A line of tags that is zero is not set. -/
structure Buffers where
  source : Option String
  mode : Mode := .idle
  featureName : Option String := none
  featureLine : Int := 0
  featureTags : List String := []
  description : List String := []
  background : Option Background := none
  definitions : List Definition := []
  pendingTags : List String := []
  pendingLine : Int := 0
  block : Option BlockBuffer := none
  examples : Option OpenExamples := none
  doc : Option DocBuffer := none
  rows : List (List String) := []
  deriving Repr, DecidableEq

/-- Why the buffered reader stops. -/
inductive Fault where
  /-- The document is refused. -/
  | refused (error : Error)
  /-- An argument of a step is complete, and there is no step. -/
  | lostArgument
  /-- A line of a doc string comes, and there is no doc string. -/
  | lostDocString
  deriving Repr, DecidableEq

/-- The wording of a fault. -/
def Fault.message : Fault → String
  | refused error => error.message
  | lostArgument => "Step argument finished without a step to attach it to"
  | lostDocString => "Doc string line outside a doc string"

/-- The outcome of a check, with the source in its error. -/
def inSource {α : Type} (source : Option String) : Except Error α → Except Fault α
  | .ok value => .ok value
  | .error error => .error (.refused { error with source })

namespace Buffers

/-- Refuse the document at a line. -/
def refuse {α : Type} (state : Buffers) (cause : Cause) (line : Int) : Except Fault α :=
  .error (.refused { cause, line, source := state.source })

/-- Forget the tags that wait. -/
def dropTags (state : Buffers) : Buffers :=
  { state with pendingTags := [], pendingLine := 0 }

/-- Change the last step, which then takes no further argument. -/
def attach (state : Buffers) (argument : Step → Step) : Except Fault Buffers :=
  match state.block with
  | none => .error .lostArgument
  | some block =>
      match block.steps.getLast? with
      | none => .error .lostArgument
      | some step =>
          .ok { state with
            block := some
              { block with
                steps := block.steps.dropLast ++ [argument step]
                acceptsArgument := false } }

/-- Give the rows that were gathered to the last step. -/
def flushTable (state : Buffers) : Except Fault Buffers :=
  if state.rows.isEmpty then .ok state
  else
    (state.attach fun step => { step with table := some ⟨state.rows⟩ }).map fun state =>
      { state with rows := [] }

/-- Give the examples that are open to the block. -/
def finishExamples (state : Buffers) : Buffers :=
  match state.examples, state.block with
  | some table, some block =>
      { state with
        block := some { block with examples := block.examples ++ [table.close] }
        examples := none }
  | _, _ => state

/-- Give the block to the feature.  An outline must have examples. -/
def giveBlock (state : Buffers) : Except Fault Buffers :=
  match state.block with
  | none => .ok state
  | some block =>
      match block.mode with
      | .background =>
          .ok { state with
            background := some { steps := block.steps, line := block.line }
            block := none }
      | .scenario =>
          .ok { state with
            definitions := state.definitions ++
              [.scenario
                { name := block.name, tags := block.tags, steps := block.steps,
                  line := block.line }]
            block := none }
      | _ =>
          if block.examples.isEmpty then state.refuse (.noExamples block.name) block.line
          else
            .ok { state with
              definitions := state.definitions ++
                [.outline
                  { name := block.name, tags := block.tags, steps := block.steps,
                    examples := block.examples, line := block.line }]
              block := none }

/-- End everything that is open in the feature. -/
def finishBlock (state : Buffers) : Except Fault Buffers :=
  match state.flushTable with
  | .error fault => .error fault
  | .ok state => state.finishExamples.giveBlock

/-! ## Lines -/

/-- Read the feature's header. -/
def readFeature (state : Buffers) (line : Int) (name : String) : Except Fault Buffers :=
  if state.featureName.isSome then state.refuse (.secondFeature state.featureLine) line
  else if name.isEmpty then state.refuse .unnamedFeature line
  else
    .ok
      { state.dropTags with
        featureName := some name
        featureLine := line
        featureTags := state.pendingTags
        mode := .feature }

/-- Read the header of a background. -/
def readBackground (state : Buffers) (line : Int) (keyword : String) : Except Fault Buffers :=
  if state.featureName.isNone then state.refuse (.beforeFeature keyword) line
  else if !state.pendingTags.isEmpty then state.refuse .taggedBackground state.pendingLine
  else if state.background.isSome || state.block.any fun block => block.mode == .background then
    state.refuse .secondBackground line
  else if state.block.isSome || !state.definitions.isEmpty then state.refuse .lateBackground line
  else
    .ok { state with
      block := some { mode := .background, name := "", tags := [], line }
      mode := .background }

/-- Read the header of a scenario or an outline. -/
def readScenario (state : Buffers) (line : Int) (mode : Mode) (keyword name : String) :
    Except Fault Buffers :=
  if state.featureName.isNone then state.refuse (.beforeFeature keyword) line
  else
    state.finishBlock.map fun state =>
      { state.dropTags with
        block := some { mode, name, tags := state.pendingTags, line }
        mode }

/-- Read the header of examples. -/
def readExamples (state : Buffers) (line : Int) : Except Fault Buffers :=
  match state.block with
  | none => state.refuse .strayExamples line
  | some block =>
      if block.mode = .outline then
        let state := state.finishExamples
        .ok
          { state.dropTags with
            examples := some { tags := state.pendingTags, line }
            block := state.block.map fun block => { block with acceptsArgument := false }
            mode := .examples }
      else state.refuse .strayExamples line

/-- Read a step. -/
def readStep (state : Buffers) (line : Int) (keyword : Keyword) (text whole : String) :
    Except Fault Buffers :=
  if !state.pendingTags.isEmpty then state.refuse .taggedStep state.pendingLine
  else if state.mode = .examples then state.refuse .stepAfterExamples line
  else
    match state.block with
    | none => state.refuse (.strayStep whole) line
    | some block =>
        if state.mode.takesSteps then
          let resolved :=
            if keyword.isConjunction then block.lastKeyword.getD .context else keyword
          .ok { state with
            block := some
              { block with
                steps := block.steps ++ [{ keyword, text, resolved, line }]
                lastKeyword := if keyword.isConjunction then block.lastKeyword else some keyword
                acceptsArgument := true } }
        else state.refuse (.strayStep whole) line

/-- Read free text. -/
def readText (state : Buffers) (line : Int) (whole : String) : Except Fault Buffers :=
  if state.mode = .feature then .ok { state with description := state.description ++ [whole] }
  else if state.mode.takesSteps && state.block.any fun block => block.steps.isEmpty then .ok state
  else if state.mode = .examples && state.examples.any fun table => table.rows.isEmpty then
    .ok state
  else if state.mode = .idle then state.refuse (.expectedFeature whole) line
  else state.refuse (.strayText whole) line

/-- Read a tag line. -/
def readTags (state : Buffers) (line : Int) (words : List String) : Except Fault Buffers :=
  match tagNames words with
  | .error cause => state.refuse cause line
  | .ok tags =>
      .ok { state with
        pendingTags := state.pendingTags ++ tags
        pendingLine := if state.pendingLine = 0 then line else state.pendingLine }

/-- Whether a block stands open whose last step can take an argument. -/
def acceptsArgument (state : Buffers) : Bool :=
  state.mode.takesSteps && state.block.any BlockBuffer.acceptsArgument

/-- Read a table row. -/
def readRow (state : Buffers) (line : Int) (rest : List Char) : Except Fault Buffers :=
  match Row.read? rest with
  | none => state.refuse .openRow line
  | some cells =>
      match state.mode, state.examples with
      | .examples, some table =>
          (inSource state.source (Reader.checkRow line cells table.rows)).map fun _ =>
            { state with examples := some { table with rows := table.rows ++ [cells] } }
      | _, _ =>
          if state.rows.isEmpty then
            if state.acceptsArgument then .ok { state with rows := [cells] }
            else state.refuse .strayRow line
          else
            (inSource state.source (Reader.checkRow line cells state.rows)).map fun _ =>
              { state with rows := state.rows ++ [cells] }

/-- Read the opening fence of a doc string. -/
def readFence (state : Buffers) (line : Int) (fence : Fence) (indent : List Char)
    (contentType : Option String) : Except Fault Buffers :=
  if state.acceptsArgument then
    .ok { state with
      doc := some { fence, indent, contentType, line, resume := state.mode }
      mode := .docString }
  else state.refuse .strayDocString line

/-- Read a line of a doc string. -/
def readDocLine (state : Buffers) (raw : List Char) : Except Fault Buffers :=
  match state.doc with
  | none => .error .lostDocString
  | some doc =>
      if Text.trim raw = doc.fence.text then
        (state.attach fun step => { step with doc := some doc.close }).map fun state =>
          { state with mode := doc.resume, doc := none }
      else
        .ok { state with doc := some { doc with content := doc.content ++ [doc.contentLine raw] } }

/-- Read a line that is neither blank nor a row. -/
def readOther (state : Buffers) (line : Int) : Line → Except Fault Buffers
  | .blank | .row _ => .ok state
  | .tags words => state.readTags line words
  | .fence fence indent contentType => state.readFence line fence indent contentType
  | .header .feature _ name => state.readFeature line name
  | .header .background keyword _ => state.readBackground line keyword
  | .header .outline keyword name => state.readScenario line .outline keyword name
  | .header .scenario keyword name => state.readScenario line .scenario keyword name
  | .header .examples _ _ => state.readExamples line
  | .step keyword text whole => state.readStep line keyword text whole
  | .text whole => state.readText line whole

/-- Read a line outside doc strings; a table before it is complete. -/
def readLine (state : Buffers) (line : Int) : Line → Except Fault Buffers
  | .blank => .ok state
  | .row rest => state.readRow line rest
  | other =>
      match state.flushTable with
      | .error fault => .error fault
      | .ok state => state.readOther line other

/-- Read the next line of the document. -/
def next (state : Buffers) (line : Int) (raw : List Char) : Except Fault Buffers :=
  if state.mode = .docString then state.readDocLine raw
  else state.readLine line (Line.classify raw)

/-- Read lines, the first of which has the given number. -/
def readLines (state : Buffers) (line : Int) : List (List Char) → Except Fault Buffers
  | [] => .ok state
  | raw :: rest =>
      match state.next line raw with
      | .error fault => .error fault
      | .ok state => state.readLines (line + 1) rest

/-- End the document after the given number of lines. -/
def finish (state : Buffers) (count : Nat) : Except Fault Feature :=
  match state.doc with
  | some doc => state.refuse .openDocString doc.line
  | none =>
      match state.flushTable with
      | .error fault => .error fault
      | .ok state =>
          if !state.pendingTags.isEmpty then state.refuse .danglingTags state.pendingLine
          else
            match state.featureName with
            | none => state.refuse .noFeature (max count 1)
            | some name =>
                state.finishBlock.map fun state =>
                  { name, description := state.description, tags := state.featureTags,
                    background := state.background, definitions := state.definitions,
                    source := state.source }

end Buffers

/-- Read a document with buffers. -/
def readBuffered (text : String) (source : Option String := none) : Except Fault Feature :=
  let lines := Text.lines (Text.dropMark text.toList)
  match ({ source } : Buffers).readLines 1 lines with
  | .error fault => .error fault
  | .ok state => state.finish lines.length

end Gherkin.Document
