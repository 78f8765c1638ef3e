import Gherkin.Pattern.Expr
import Gherkin.Text.Blank
import Gherkin.Text.Digit
import Gherkin.Text.Letter

/-!
# Matching texts against patterns

A pattern is matched by trying the ways it can match in a fixed order, and
taking the first that lets the rest of the pattern match too.  What follows an
expression is handed to it as a continuation, so that giving up a way and
trying the next is the `<|>` of options.  A pattern matches a text only as a
whole.
-/

namespace Gherkin.Pattern

/-- A stretch of the text, from one position up to another. -/
structure Span where
  first : Nat
  last : Nat
  deriving Repr, DecidableEq

/-- How far a match has come: the position in the text, and what the groups
have captured. -/
structure Progress where
  position : Nat
  captured : List (Option Span)
  deriving Repr, DecidableEq

/-- What remains to be matched after an expression. -/
abbrev Continuation := Progress → Option Progress

/-- The code points of an equivalence class of letters that differ in case. -/
def capitalsOf (small : Nat) : List Nat :=
  Text.capitalRuns.filterMap fun run =>
    let capital := ((small : Int) - run.shift).toNat
    if run.first ≤ capital && capital ≤ run.last &&
        (capital - run.first) % run.step == 0 &&
        ((capital : Int) + run.shift).toNat == small then some capital
    else none

/-- Every code point that differs from a character at most in case. -/
def caseVariants (c : Char) : List Nat :=
  let small := (Text.lowerChar c).toNat
  let smalls := small ::
    (Text.equivalentSmallLetters.filter fun letters => letters.contains small).flatten
  c.toNat :: smalls ++ smalls.flatMap capitalsOf

/-- The code points that count as a character under the given options. -/
def Options.variants (options : Options) (c : Char) : List Nat :=
  if !options.ignoreCase then [c.toNat]
  else if options.ascii then [c.toNat, c.toLower.toNat, c.toUpper.toNat]
  else caseVariants c

/-- A word character under the given options. -/
def Options.isWord (options : Options) (c : Char) : Bool :=
  if options.ascii then c.toNat < 128 && (c.isAlphanum || c == '_') else Text.isWordChar c

/-- Whether a character is of a category. -/
def Category.holds (options : Options) (c : Char) : Category → Bool
  | .digit => if options.ascii then c.isDigit else Text.isDecimal c
  | .space =>
      if options.ascii then c == ' ' || (9 ≤ c.toNat && c.toNat ≤ 13) else Text.isBlank c
  | .word => options.isWord c

/-- Whether a character is a member of a set. -/
def SetItem.holds (options : Options) (c : Char) : SetItem → Bool
  | .code n => (options.variants c).contains n
  | .range first last =>
      (options.variants c).any fun variant => first ≤ variant && variant ≤ last
  | .category kind negated => kind.holds options c != negated

/-- Whether a position fulfils an anchor. -/
def Anchor.holds (options : Options) (text : Array Char) (position : Nat) : Anchor → Bool
  | .textStart => position == 0
  | .textEnd => position == text.size
  | .lastLineEnd =>
      position == text.size ||
        (position + 1 == text.size && text[position]? == some '\n')
  | .lineStart => position == 0 || text[position - 1]? == some '\n'
  | .lineEnd => position == text.size || text[position]? == some '\n'
  | .wordEdge => text.size != 0 && before != after
  | .noWordEdge => text.size != 0 && before == after
where
  before : Bool := position != 0 && text[position - 1]?.any options.isWord
  after : Bool := text[position]?.any options.isWord

/-- Take one character that fulfils a condition. -/
def takeChar (text : Array Char) (holds : Char → Bool) (next : Continuation) :
    Continuation := fun progress =>
  match text[progress.position]? with
  | some c => if holds c then next { progress with position := progress.position + 1 } else none
  | none => none

/-- Whether two characters count as the same. -/
def Options.same (options : Options) (c d : Char) : Bool :=
  if !options.ignoreCase then c == d
  else if options.ascii then c.toLower == d.toLower
  else Text.lowerChar c == Text.lowerChar d

/-- Take the text of a span once more. -/
def takeAgain (text : Array Char) (options : Options) (span : Span) (next : Continuation) :
    Continuation := fun progress =>
  let wanted := (text.extract span.first span.last).toList
  let found :=
    (text.extract progress.position (progress.position + wanted.length)).toList
  if wanted.length == found.length &&
      (wanted.zip found).all fun (c, d) => options.same c d then
    next { progress with position := progress.position + wanted.length }
  else none

/-- Repeat as often as possible before going on.  After the required number of
rounds a round may not start where the last one started, so the fuel bounds
the number of rounds. -/
def repeatGreedy (body : Continuation → Continuation) (least : Nat) (most : Option Nat)
    (next : Continuation) : Nat → Nat → Option Nat → Continuation
  | 0, _, _ => next
  | fuel + 1, count, last => fun progress =>
      if count < least then
        body (repeatGreedy body least most next fuel (count + 1) last) progress
      else if most.all (count < ·) && last != some progress.position then
        body (repeatGreedy body least most next fuel (count + 1) (some progress.position))
            progress <|>
          next progress
      else next progress

/-- Go on as soon as possible, and repeat only when that fails. -/
def repeatReluctant (body : Continuation → Continuation) (least : Nat) (most : Option Nat)
    (next : Continuation) : Nat → Nat → Option Nat → Continuation
  | 0, _, _ => next
  | fuel + 1, count, last => fun progress =>
      if count < least then
        body (repeatReluctant body least most next fuel (count + 1) last) progress
      else
        next progress <|>
          if most.all (count < ·) && last != some progress.position then
            body (repeatReluctant body least most next fuel (count + 1)
              (some progress.position)) progress
          else none

/-- Repeat as often as possible; every round is final. -/
def repeatPossessive (body : Continuation → Continuation) (least : Nat) (most : Option Nat) :
    Nat → Nat → Option Nat → Continuation
  | 0, _, _ => some
  | fuel + 1, count, last => fun progress =>
      if count < least then
        match body some progress with
        | some progress => repeatPossessive body least most fuel (count + 1) last progress
        | none => none
      else if most.all (count < ·) && last != some progress.position then
        match body some progress with
        | some after =>
            repeatPossessive body least most fuel (count + 1) (some progress.position) after
        | none => some progress
      else some progress

/-- Match an expression, and then what follows it. -/
def Expr.run (text : Array Char) : Expr → Continuation → Continuation
  | .empty, next => next
  | .code options n, next =>
      takeChar text (fun c => (options.variants c).contains n) next
  | .any options, next => takeChar text (fun c => options.dotAll || c != '\n') next
  | .set options negated items, next =>
      takeChar text (fun c => items.any (SetItem.holds options c) != negated) next
  | .anchor options kind, next => fun progress =>
      if kind.holds options text progress.position then next progress else none
  | .seq first second, next => first.run text (second.run text next)
  | .alt first second, next => fun progress =>
      first.run text next progress <|> second.run text next progress
  | .part body, next => body.run text next
  | .group index body, next => fun progress =>
      body.run text
        (fun after =>
          next { after with
            captured := after.captured.set (index - 1)
              (some ⟨progress.position, after.position⟩) })
        progress
  | .atomic body, next => fun progress => (body.run text some progress).bind next
  | .repeated least most kind body, next => fun progress =>
      let fuel := least + (text.size - progress.position) + 2
      match kind with
      | .greedy => repeatGreedy (body.run text) least most next fuel 0 none progress
      | .reluctant => repeatReluctant (body.run text) least most next fuel 0 none progress
      | .possessive =>
          (repeatPossessive (body.run text) least most fuel 0 none progress).bind next
  | .again options index _, next => fun progress =>
      match (progress.captured[index - 1]?).join with
      | some span => takeAgain text options span next progress
      | none => none
  | .ahead negated body, next => fun progress =>
      match body.run text some progress with
      | some after =>
          if negated then none else next { after with position := progress.position }
      | none => if negated then next progress else none
  | .behind negated body, next => fun progress =>
      let back := body.width.least
      let found :=
        if progress.position < back then none
        else body.run text some { progress with position := progress.position - back }
      match found with
      | some after =>
          if negated then none else next { after with position := progress.position }
      | none => if negated then next progress else none
  | .ifCaptured index first second, next => fun progress =>
      if ((progress.captured[index - 1]?).join).isSome then first.run text next progress
      else second.run text next progress

/-- What the groups of a pattern captured; `none` for a group that took no
part in the match. -/
abbrev Captures := List (Option String)

/-- Match a whole text. -/
def fullMatch (pattern : Pattern) (text : String) : Option Captures :=
  let chars := text.toList.toArray
  let start : Progress := { position := 0, captured := List.replicate pattern.groups none }
  let atEnd : Continuation := fun progress =>
    if progress.position = chars.size then some progress else none
  (pattern.expr.run chars atEnd start).map fun progress =>
    progress.captured.map fun span? => span?.map fun span =>
      String.ofList (chars.extract span.first span.last).toList

/-- The captures of the groups that have names. -/
def named (pattern : Pattern) (captures : Captures) : List (String × Option String) :=
  pattern.names.map fun (name, index) => (name, (captures[index - 1]?).join)

end Gherkin.Pattern
