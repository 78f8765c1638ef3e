import Gherkin.Yaml.Scalar

/-!
# Tokens of settings

A settings text as a list of tokens: scalars, the marks between them, and the
beginnings and ends of blocks, which follow from indentation.  That a scalar was
a key is seen only at the colon after it, so the tokens before a key are put in
front of it then.
-/

namespace Gherkin.Yaml

/-- A token. -/
inductive Token where
  | documentStart
  | documentEnd
  /-- The first entry of a list by indentation follows. -/
  | listStart
  /-- The first key of a mapping by indentation follows. -/
  | mappingStart
  /-- The end of a list or mapping by indentation. -/
  | blockEnd
  | openList
  | closeList
  | openMapping
  | closeMapping
  | comma
  /-- The mark of an entry. -/
  | entry
  /-- A key follows. -/
  | key
  /-- A value follows. -/
  | value
  | scalar (isPlain : Bool) (text : List Char)
  deriving Repr, DecidableEq

/-- A place where a key may have begun. -/
structure KeyCandidate where
  /-- Number of tokens before it. -/
  position : Nat
  /-- A colon must follow, because nothing else can stand there. -/
  required : Bool
  line : Nat
  column : Nat
  index : Nat

/-- The state between two tokens. -/
structure Scanner where
  cursor : Cursor
  tokens : List Token := []
  /-- The columns of the blocks that are open, innermost first. -/
  indents : List Nat := []
  /-- For every open bracket, innermost first, where a key may have begun in it;
  the last is for the text outside of brackets. -/
  candidates : List (Option KeyCandidate) := [none]
  /-- Whether a key may begin here. -/
  keyAllowed : Bool := true

namespace Scanner

/-- Whether the place is inside brackets. -/
def inFlow (scanner : Scanner) : Bool :=
  1 < scanner.candidates.length

/-- The first column right of the innermost open block. -/
def innerColumn (scanner : Scanner) : Nat :=
  match scanner.indents with
  | [] => 0
  | column :: _ => column + 1

/-- Add a token at the end. -/
def push (scanner : Scanner) (token : Token) : Scanner :=
  { scanner with tokens := scanner.tokens ++ [token] }

/-- Put a token before the tokens from a position on. -/
def insert (scanner : Scanner) (position : Nat) (token : Token) : Scanner :=
  { scanner with
    tokens := scanner.tokens.take position ++ token :: scanner.tokens.drop position }

/-- Go some characters on and add a token. -/
def pushMark (scanner : Scanner) (length : Nat) (token : Token) : Scanner :=
  { scanner.push token with cursor := scanner.cursor.advance length }

/-- Whether a candidate can be a key no more: it is on an earlier line, or too
far back. -/
def isStale (cursor : Cursor) (candidate : KeyCandidate) : Bool :=
  candidate.line != cursor.line || 1024 < cursor.index - candidate.index

/-- Give up the candidates that can be keys no more. -/
def dropStale (scanner : Scanner) : Option Scanner :=
  if (scanner.candidates.filterMap id).any fun candidate =>
      isStale scanner.cursor candidate && candidate.required then none
  else
    some
      { scanner with
        candidates := scanner.candidates.map fun candidate? =>
          candidate?.filter fun candidate => !isStale scanner.cursor candidate }

/-- Give up the innermost candidate. -/
def dropCandidate (scanner : Scanner) : Option Scanner :=
  match scanner.candidates with
  | some candidate :: outer =>
      if candidate.required then none else some { scanner with candidates := none :: outer }
  | _ => some scanner

/-- Remember that a key may begin at the next token. -/
def saveCandidate (scanner : Scanner) : Option Scanner :=
  if !scanner.keyAllowed then some scanner
  else do
    let scanner ← scanner.dropCandidate
    let cursor := scanner.cursor
    let candidate : KeyCandidate :=
      { position := scanner.tokens.length
        required := !scanner.inFlow && scanner.indents.head? == some cursor.column
        line := cursor.line, column := cursor.column, index := cursor.index }
    return { scanner with candidates := some candidate :: scanner.candidates.drop 1 }

/-- End the blocks that reach at least to a column. -/
def closeBlocks (column : Nat) : List Nat → List Nat × List Token
  | [] => ([], [])
  | indent :: outer =>
      if column < indent then
        let (left, tokens) := closeBlocks column outer
        (left, .blockEnd :: tokens)
      else (indent :: outer, [])

/-- End the blocks that the place is left of. -/
def unwind (scanner : Scanner) (column : Nat) : Scanner :=
  if scanner.inFlow then scanner
  else
    let (indents, ends) := closeBlocks column scanner.indents
    { scanner with indents, tokens := scanner.tokens ++ ends }

/-- End all blocks. -/
def unwindAll (scanner : Scanner) : Scanner :=
  if scanner.inFlow then scanner
  else
    { scanner with
      indents := [], tokens := scanner.tokens ++ scanner.indents.map fun _ => .blockEnd }

/-- Whether a block at a column is not open yet. -/
def opensBlock (scanner : Scanner) (column : Nat) : Bool :=
  scanner.indents.head?.all (· < column)

/-- Begin a block at a column, unless it is open. -/
def openBlock (scanner : Scanner) (column position : Nat) (token : Token) : Scanner :=
  if scanner.opensBlock column then
    { scanner.insert position token with indents := column :: scanner.indents }
  else scanner

/-- Pass over spaces, comments and line breaks.  A key may begin on a new
line. -/
def skipToToken : Nat → Scanner → Scanner
  | 0, scanner => scanner
  | fuel + 1, scanner =>
      let cursor := scanner.cursor.skipComment
      match cursor.lineBreak with
      | ([], _) => { scanner with cursor }
      | (_, next) =>
          skipToToken fuel
            { scanner with cursor := next, keyAllowed := scanner.keyAllowed || !scanner.inFlow }

/-- The beginning or the end of a document. -/
def documentMark (scanner : Scanner) (token : Token) : Option Scanner := do
  let scanner ← scanner.unwindAll.dropCandidate
  return { scanner.pushMark 3 token with keyAllowed := false }

/-- An opening bracket; a key may begin at it and after it. -/
def openBracket (scanner : Scanner) (token : Token) : Option Scanner := do
  let scanner ← scanner.saveCandidate
  return { scanner.pushMark 1 token with
    candidates := none :: scanner.candidates, keyAllowed := true }

/-- A closing bracket. -/
def closeBracket (scanner : Scanner) (token : Token) : Option Scanner :=
  if !scanner.inFlow then none
  else do
    let scanner ← scanner.dropCandidate
    return { scanner.pushMark 1 token with
      candidates := scanner.candidates.drop 1, keyAllowed := false }

/-- A comma. -/
def comma (scanner : Scanner) : Option Scanner := do
  let scanner ← scanner.dropCandidate
  return { scanner.pushMark 1 .comma with keyAllowed := true }

/-- The mark of an entry, or of a key with a mark of its own. -/
def blockMark (scanner : Scanner) (start token : Token) (keyAfter : Bool) : Option Scanner := do
  let column := scanner.cursor.column
  let scanner ←
    if scanner.inFlow then some scanner
    else if !scanner.keyAllowed then none
    else some (scanner.openBlock column scanner.tokens.length start)
  let scanner ← scanner.dropCandidate
  return { scanner.pushMark 1 token with keyAllowed := keyAfter }

/-- The colon after a key, or before a value without one. -/
def valueMark (scanner : Scanner) : Option Scanner :=
  match scanner.candidates with
  | some candidate :: outer =>
      let scanner := ({ scanner with candidates := none :: outer }).insert candidate.position .key
      let scanner :=
        if scanner.inFlow then scanner
        else scanner.openBlock candidate.column candidate.position .mappingStart
      some { scanner.pushMark 1 .value with keyAllowed := false }
  | _ => scanner.blockMark .mappingStart .value (!scanner.inFlow)

/-- A scalar that may be a key. -/
def scalar (scanner : Scanner) (isPlain : Bool) (outcome : Scalar.Outcome) : Scanner :=
  { scanner.push (.scalar isPlain outcome.text) with
    cursor := outcome.after, keyAllowed := outcome.newLine }

/-- A plain scalar. -/
def plainScalar (scanner : Scanner) : Option Scanner := do
  let scanner ← scanner.saveCandidate
  return scanner.scalar true (Scalar.plain scanner.inFlow scanner.innerColumn scanner.cursor)

/-- A scalar in quotes. -/
def quotedScalar (scanner : Scanner) (quote : Char) : Option Scanner := do
  let scanner ← scanner.saveCandidate
  return scanner.scalar false (← Scalar.quoted quote scanner.cursor)

/-- A block of lines. -/
def blockScalar (scanner : Scanner) (isFolded : Bool) : Option Scanner := do
  let scanner ← scanner.dropCandidate
  let outcome ← Scalar.block isFolded scanner.innerColumn scanner.cursor.next
  return { scanner.scalar false outcome with keyAllowed := true }

/-- Whether a plain scalar can begin with a character. -/
def beginsPlain (scanner : Scanner) (c : Char) : Bool :=
  if c == '-' || c == '?' || c == ':' then
    !scanner.cursor.atSpace 1 && (c == '-' || !scanner.inFlow)
  else
    !isSpace c &&
      !(",[]#&*!|>\x27\x22%@\x60\x7b\x7d".toList.contains c)

/-- Read the token that begins with a character. -/
def readToken (scanner : Scanner) (c : Char) : Option Scanner :=
  let cursor := scanner.cursor
  let standsAlone := scanner.inFlow || cursor.atSpace 1
  if cursor.column = 0 ∧ cursor.atDocumentMark then
    scanner.documentMark (if c = '-' then .documentStart else .documentEnd)
  else if c = '[' then scanner.openBracket .openList
  else if c = '\x7b' then scanner.openBracket .openMapping
  else if c = ']' then scanner.closeBracket .closeList
  else if c = '\x7d' then scanner.closeBracket .closeMapping
  else if c = ',' then scanner.comma
  else if c = '-' ∧ cursor.atSpace 1 then scanner.blockMark .listStart .entry true
  else if c = '?' ∧ standsAlone then
    scanner.blockMark .mappingStart .key (!scanner.inFlow)
  else if c = ':' ∧ standsAlone then scanner.valueMark
  else if c = '|' ∧ !scanner.inFlow then scanner.blockScalar false
  else if c = '>' ∧ !scanner.inFlow then scanner.blockScalar true
  else if c = '\x27' ∨ c = '\x22' then scanner.quotedScalar c
  else if scanner.beginsPlain c then scanner.plainScalar
  else none

/-- Read all tokens from here on. -/
def run : Nat → Scanner → Option (List Token)
  | 0, _ => none
  | fuel + 1, scanner => do
      let scanner ← (skipToToken (scanner.cursor.rest.length + 1) scanner).dropStale
      let scanner := scanner.unwind scanner.cursor.column
      match scanner.cursor.peek with
      | none => return (← scanner.unwindAll.dropCandidate).tokens
      | some c => run fuel (← scanner.readToken c)

end Scanner

/-- The tokens of a settings text, if it can be cut into tokens. -/
def tokens? (text : String) : Option (List Token) :=
  if text.toList.all isPrintable then
    let cs := normalize text.toList
    let cs := if cs.head?.any (·.toNat == 0xFEFF) then cs.drop 1 else cs
    Scanner.run (cs.length + 1) { cursor := { rest := cs } }
  else none

end Gherkin.Yaml
