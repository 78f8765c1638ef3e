import Gherkin.Yaml.Cursor

/-!
# Scalars as they are written

Plain scalars, scalars in single or double quotes, and blocks of lines.  Line
breaks inside the first three are folded: a single break is a space, and of
several the first says nothing.  A block keeps its breaks or folds them.
-/

namespace Gherkin.Yaml.Scalar

/-- A scalar that was read, and the place after it. -/
structure Outcome where
  text : List Char
  after : Cursor
  /-- Whether the place is on a line after that of the scalar's last word. -/
  newLine : Bool := false

/-- What a run of line breaks says. -/
def folded (first : List Char) (breaks : List Char) : List Char :=
  (if first ≠ ['\n'] then first else if breaks.isEmpty then [' '] else []) ++ breaks

/-! ## Plain scalars -/

/-- The marks of lists and mappings in brackets. -/
def isFlowMark (c : Char) : Bool :=
  c == ',' || c == '[' || c == ']' || c == '\x7b' || c == '\x7d'

/-- The part of a plain scalar up to a space, a line break, or a mark. -/
def plainWord (inFlow : Bool) : List Char → List Char
  | [] => []
  | c :: cs =>
      let isKeyEnd :=
        c == ':' && (cs.head?.all isSpace || (inFlow && cs.head?.any isFlowMark))
      if isSpace c || isKeyEnd || (inFlow && (isFlowMark c || c == '?')) then []
      else c :: plainWord inFlow cs

/-- The breaks after the first break of a plain scalar, and the place after
them; `none` where a document begins or ends. -/
def plainBreaks : Nat → Cursor → Option (List Char × Cursor)
  | 0, cursor => some ([], cursor)
  | fuel + 1, cursor =>
      if cursor.at? ' ' then plainBreaks fuel cursor.next
      else
        match cursor.lineBreak with
        | ([], _) => some ([], cursor)
        | (mark, after) =>
            if after.atDocumentMark then none
            else (plainBreaks fuel after).map fun (marks, last) => (mark ++ marks, last)

/-- The place where the breaks after the first break end because a document
begins or ends there. -/
def documentMarkAfter : Nat → Cursor → Cursor
  | 0, cursor => cursor
  | fuel + 1, cursor =>
      if cursor.at? ' ' then documentMarkAfter fuel cursor.next
      else
        match cursor.lineBreak with
        | ([], _) => cursor
        | (_, after) => if after.atDocumentMark then after else documentMarkAfter fuel after

/-- What stands between two words of a plain scalar, and the place after it.
Nothing ends the scalar. -/
def plainSpaces (cursor : Cursor) : Outcome :=
  let after := cursor.skip (· == ' ')
  match after.lineBreak with
  | ([], _) =>
      { text := List.replicate (after.index - cursor.index) ' ', after }
  | (first, next) =>
      if next.atDocumentMark then { text := [], after := next, newLine := true }
      else
        match plainBreaks next.rest.length next with
        | some (breaks, last) => { text := folded first breaks, after := last, newLine := true }
        | none =>
            { text := [], after := documentMarkAfter next.rest.length next, newLine := true }

/-- The words of a plain scalar and what stands between them.  The lines after
the first must be indented by at least the given number of columns, unless the
scalar stands in brackets. -/
def plainFrom (inFlow : Bool) (indent : Nat) : Nat → List Char → Bool → Cursor → Outcome
  | 0, _, newLine, cursor => { text := [], after := cursor, newLine }
  | fuel + 1, spaces, newLine, cursor =>
      let word := if cursor.at? '#' then [] else plainWord inFlow cursor.rest
      if word.isEmpty then { text := [], after := cursor, newLine }
      else
        let between := plainSpaces (cursor.advance word.length)
        let later :=
          if between.text.isEmpty || between.after.at? '#' ||
              (!inFlow && between.after.column < indent) then
            { text := [], after := between.after, newLine := between.newLine }
          else plainFrom inFlow indent fuel between.text between.newLine between.after
        { later with text := spaces ++ word ++ later.text }

/-- Read a plain scalar. -/
def plain (inFlow : Bool) (indent : Nat) (cursor : Cursor) : Outcome :=
  plainFrom inFlow indent (cursor.rest.length + 1) [] false cursor

/-! ## Quoted scalars -/

/-- The character that a letter after a backslash stands for. -/
def escaped? : Char → Option Char
  | '0' => some (Char.ofNat 0)
  | 'a' => some (Char.ofNat 7)
  | 'b' => some (Char.ofNat 8)
  | 't' | '\t' => some '\t'
  | 'n' => some '\n'
  | 'v' => some (Char.ofNat 11)
  | 'f' => some (Char.ofNat 12)
  | 'r' => some '\r'
  | 'e' => some (Char.ofNat 27)
  | ' ' => some ' '
  | '\x22' => some '\x22'
  | '\\' => some '\\'
  | '/' => some '/'
  | 'N' => some (Char.ofNat 0x85)
  | '_' => some (Char.ofNat 0xA0)
  | 'L' => some (Char.ofNat 0x2028)
  | 'P' => some (Char.ofNat 0x2029)
  | _ => none

/-- How many hexadecimal digits follow a letter after a backslash. -/
def codeLength? : Char → Option Nat
  | 'x' => some 2
  | 'u' => some 4
  | 'U' => some 8
  | _ => none

/-- The value of a hexadecimal digit. -/
def hexDigit? (c : Char) : Option Nat :=
  if '0' ≤ c ∧ c ≤ '9' then some (c.toNat - 48)
  else if 'a' ≤ c ∧ c ≤ 'f' then some (c.toNat - 87)
  else if 'A' ≤ c ∧ c ≤ 'F' then some (c.toNat - 55)
  else none

/-- The character of a code of the given number of digits. -/
def codeAt? (length : Nat) (cursor : Cursor) : Option Char :=
  let digits := cursor.rest.take length
  if digits.length < length then none
  else
    (digits.mapM hexDigit?).bind fun values =>
      let n := values.foldl (fun n digit => 16 * n + digit) 0
      if 0x10FFFF < n then none
      else if 0xD800 ≤ n ∧ n < 0xE000 then some (Char.ofNat 0xFFFD)
      else some (Char.ofNat n)

/-- The breaks of a quoted scalar, each after spaces and tabs, and the place
after them and the spaces and tabs that follow.  No document may begin or end
there. -/
def quotedBreaks : Nat → Cursor → Option (List Char × Cursor)
  | 0, cursor => some ([], cursor)
  | fuel + 1, cursor =>
      if cursor.atDocumentMark then none
      else
        let cursor := cursor.skip fun c => c == ' ' || c == '\t'
        match cursor.lineBreak with
        | ([], _) => some ([], cursor)
        | (mark, after) =>
            (quotedBreaks fuel after).map fun (marks, last) => (mark ++ marks, last)

/-- What spaces and line breaks in a quoted scalar say, and the place after
them. -/
def quotedSpaces (cursor : Cursor) : Option (List Char × Cursor) :=
  let after := cursor.skip fun c => c == ' ' || c == '\t'
  match after.peek with
  | none => none
  | some c =>
      if isBreak c then
        (quotedBreaks after.next.rest.length after.next).map fun (breaks, last) =>
          (folded [c] breaks, last)
      else some (cursor.rest.take (after.index - cursor.index), after)

/-- What a backslash and what follows it say.  The cursor is after the
backslash. -/
def escape (cursor : Cursor) : Option (List Char × Cursor) := do
  let c ← cursor.peek
  match escaped? c, codeLength? c with
  | some char, _ => return ([char], cursor.next)
  | none, some length =>
      let char ← codeAt? length cursor.next
      return ([char], cursor.next.advance length)
  | none, none =>
      if isBreak c then quotedBreaks cursor.next.rest.length cursor.next else none

/-- Read the rest of a scalar in quotes, with its closing quote. -/
def quotedFrom (quote : Char) : Nat → Cursor → Option Outcome
  | 0, _ => none
  | fuel + 1, cursor => do
      let c ← cursor.peek
      let isDouble := quote == '\x22'
      if c == quote then
        if !isDouble && cursor.peek 1 == some quote then
          let later ← quotedFrom quote fuel (cursor.advance 2)
          return { later with text := quote :: later.text }
        else return { text := [], after := cursor.next }
      else
        let (said, after) ←
          if isDouble && c == '\\' then escape cursor.next
          else if isSpace c then quotedSpaces cursor
          else some ([c], cursor.next)
        let later ← quotedFrom quote fuel after
        return { later with text := said ++ later.text }

/-- Read a scalar in quotes; the cursor is at the opening quote. -/
def quoted (quote : Char) (cursor : Cursor) : Option Outcome :=
  quotedFrom quote cursor.rest.length cursor.next

/-! ## Blocks -/

/-- What becomes of the line breaks at the end of a block. -/
inductive Ending where
  /-- One break is kept. -/
  | clip
  /-- No break is kept. -/
  | strip
  /-- All breaks are kept. -/
  | keep
  deriving Repr, DecidableEq

/-- The ending that a sign asks for. -/
def ending? : Char → Option Ending
  | '+' => some .keep
  | '-' => some .strip
  | _ => none

/-- The indentation that a digit asks for. -/
def indentation? (c : Char) : Option Nat :=
  if '1' ≤ c ∧ c ≤ '9' then some (c.toNat - 48) else none

/-- The ending and the indentation that the head of a block asks for, in either
order, and the place after them. -/
def blockSigns (cursor : Cursor) : Ending × Option Nat × Cursor :=
  match cursor.peek.bind ending? with
  | some ending =>
      match cursor.next.peek.bind indentation? with
      | some n => (ending, some n, cursor.next.next)
      | none => (ending, none, cursor.next)
  | none =>
      match cursor.peek.bind indentation? with
      | some n =>
          match cursor.next.peek.bind ending? with
          | some ending => (ending, some n, cursor.next.next)
          | none => (.clip, some n, cursor.next)
      | none => (.clip, none, cursor)

/-- Read the head of a block after its mark: signs, and perhaps a comment. -/
def blockHead (cursor : Cursor) : Option (Ending × Option Nat × Cursor) :=
  let (ending, indent, after) := blockSigns cursor
  if !(after.at? ' ' || after.atLineEnd) then none
  else
    let after := after.skipComment
    if after.atLineEnd then some (ending, indent, after.lineBreak.2) else none

/-- The empty lines at the front of a block, the greatest column that a line of
spaces or the first line's indentation reaches, and the place after them. -/
def blockFront : Nat → Nat → Cursor → List Char × Nat × Cursor
  | 0, greatest, cursor => ([], greatest, cursor)
  | fuel + 1, greatest, cursor =>
      if cursor.at? ' ' then
        blockFront fuel (max greatest cursor.next.column) cursor.next
      else
        match cursor.lineBreak with
        | ([], _) => ([], greatest, cursor)
        | (mark, after) =>
            let (marks, greatest, last) := blockFront fuel greatest after
            (mark ++ marks, greatest, last)

/-- The place after spaces, up to a column. -/
def toColumn (column : Nat) (cursor : Cursor) : Cursor :=
  Cursor.skipUpTo (· == ' ') (column - cursor.column) cursor

/-- Empty lines within a block, and the place at the front of the next line's
text. -/
def blockBreaks (indent : Nat) : Nat → Cursor → List Char × Cursor
  | 0, cursor => ([], toColumn indent cursor)
  | fuel + 1, cursor =>
      let cursor := toColumn indent cursor
      match cursor.lineBreak with
      | ([], _) => ([], cursor)
      | (mark, after) =>
          let (marks, last) := blockBreaks indent fuel after
          (mark ++ marks, last)

/-- What the break between two lines of a block says. -/
def betweenLines (isFolded : Bool) (mark breaks : List Char) (spaced : Bool) : List Char :=
  if isFolded && mark == ['\n'] && !spaced then
    if breaks.isEmpty then [' '] else []
  else mark

/-- The lines of a block from a place on, after empty lines, and the place after
the block. -/
def blockLines (isFolded : Bool) (ending : Ending) (indent : Nat) :
    Nat → List Char → Cursor → Outcome
  | 0, _, cursor => { text := [], after := cursor }
  | fuel + 1, breaks, cursor =>
      let isBlank (cursor : Cursor) := cursor.at? ' ' || cursor.at? '\t'
      let line := cursor.rest.takeWhile (!isBreak ·)
      let (mark, next) := (cursor.advance line.length).lineBreak
      let (later, after) := blockBreaks indent next.rest.length next
      if after.column = indent ∧ ¬after.atEnd then
        let between :=
          betweenLines isFolded mark later (isBlank cursor || isBlank after)
        let rest := blockLines isFolded ending indent fuel later after
        { rest with text := breaks ++ line ++ between ++ rest.text }
      else
        let tail :=
          match ending with
          | .strip => []
          | .clip => mark
          | .keep => mark ++ later
        { text := breaks ++ line ++ tail, after }

/-- Read a block after its mark.  Its lines are indented by at least the given
number of columns. -/
def block (isFolded : Bool) (least : Nat) (cursor : Cursor) : Option Outcome := do
  let (ending, asked, start) ← blockHead cursor
  let least := max 1 least
  let (breaks, indent, first) :=
    match asked with
    | some n =>
        let indent := least + n - 1
        let (breaks, first) := blockBreaks indent start.rest.length start
        (breaks, indent, first)
    | none =>
        let (breaks, greatest, first) := blockFront start.rest.length 0 start
        (breaks, max least greatest, first)
  if first.column = indent ∧ ¬first.atEnd then
    return blockLines isFolded ending indent (first.rest.length + 1) breaks first
  else
    return { text := if ending = .keep then breaks else [], after := first }

end Gherkin.Yaml.Scalar
