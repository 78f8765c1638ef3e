import Gherkin.Text.LowerCase

/-!
# Expressions of step patterns

The syntax of step patterns as a tree.  Whether case counts, and similar
choices, are kept in the leaves they apply to, so that the meaning of a tree
depends on nothing but the tree.
-/

namespace Gherkin.Pattern

/-- Choices that apply to a part of a pattern. -/
structure Options where
  /-- Case does not count. -/
  ignoreCase : Bool := false
  /-- The anchors for the ends of the text also hold at line breaks. -/
  multiline : Bool := false
  /-- The dot also stands for a line feed. -/
  dotAll : Bool := false
  /-- Classes and case are those of ASCII. -/
  ascii : Bool := false
  /-- Blanks and comments in the pattern are skipped. -/
  spaced : Bool := false
  deriving Repr, DecidableEq

/-- A class of characters with a name of its own. -/
inductive Category where
  | digit
  | space
  | word
  deriving Repr, DecidableEq

/-- A member of a set of characters.  Characters are given by code point. -/
inductive SetItem where
  | code (code : Nat)
  | range (first last : Nat)
  | category (category : Category) (negated : Bool)
  deriving Repr, DecidableEq

/-- A condition on a position in the text. -/
inductive Anchor where
  /-- The start of the text. -/
  | textStart
  /-- The end of the text. -/
  | textEnd
  /-- The end of the text, or before a line feed that ends it. -/
  | lastLineEnd
  /-- The start of a line. -/
  | lineStart
  /-- The end of a line. -/
  | lineEnd
  /-- Between a word character and another. -/
  | wordEdge
  /-- Not between a word character and another. -/
  | noWordEdge
  deriving Repr, DecidableEq

/-- Which number of repetitions is tried first. -/
inductive Repetition where
  /-- As many as possible. -/
  | greedy
  /-- As few as possible. -/
  | reluctant
  /-- As many as possible, and never fewer. -/
  | possessive
  deriving Repr, DecidableEq

/-- How many characters an expression takes: at least, and at most unless there
is no bound. -/
structure Width where
  least : Nat := 0
  most : Option Nat := some 0
  deriving Repr, DecidableEq

/-- A pattern expression. -/
inductive Expr where
  /-- The empty text. -/
  | empty
  /-- One character, by its code point. -/
  | code (options : Options) (code : Nat)
  /-- Any character, line feeds apart unless they are wanted too. -/
  | any (options : Options)
  /-- A character in, or not in, a set. -/
  | set (options : Options) (negated : Bool) (items : List SetItem)
  /-- No character, but a condition on the position. -/
  | anchor (options : Options) (anchor : Anchor)
  /-- One after the other. -/
  | seq (first second : Expr)
  /-- The first, or else the second. -/
  | alt (first second : Expr)
  /-- A part in parentheses that is not captured. -/
  | part (body : Expr)
  /-- A captured group. -/
  | group (index : Nat) (body : Expr)
  /-- A part in which no other way is tried once it has matched. -/
  | atomic (body : Expr)
  /-- Repetition. -/
  | repeated (least : Nat) (most : Option Nat) (kind : Repetition) (body : Expr)
  /-- What a group has captured, once more. -/
  | again (options : Options) (index : Nat) (width : Width)
  /-- A condition on what follows. -/
  | ahead (negated : Bool) (body : Expr)
  /-- A condition on what precedes. -/
  | behind (negated : Bool) (body : Expr)
  /-- The first if a group has captured something, else the second. -/
  | ifCaptured (index : Nat) (first second : Expr)
  deriving Repr, DecidableEq

namespace Width

/-- Exactly one character. -/
def one : Width := ⟨1, some 1⟩

/-- One after the other. -/
def add (a b : Width) : Width :=
  ⟨a.least + b.least, do pure ((← a.most) + (← b.most))⟩

/-- Either of two. -/
def either (a b : Width) : Width :=
  ⟨min a.least b.least, do pure (max (← a.most) (← b.most))⟩

/-- Repeated. -/
def times (least : Nat) (most : Option Nat) (w : Width) : Width :=
  ⟨least * w.least,
    if most = some 0 || w.most = some 0 then some 0
    else do pure ((← most) * (← w.most))⟩

/-- Whether the number of characters is fixed. -/
def isFixed (w : Width) : Bool :=
  w.most == some w.least

end Width

namespace Expr

/-- How many characters an expression takes. -/
def width : Expr → Width
  | .empty | .anchor _ _ | .ahead _ _ | .behind _ _ => {}
  | .code _ _ | .any _ | .set _ _ _ => .one
  | .seq first second => first.width.add second.width
  | .alt first second => first.width.either second.width
  | .part body | .group _ body | .atomic body => body.width
  | .repeated least most _ body => body.width.times least most
  | .again _ _ width => width
  | .ifCaptured _ first second => first.width.either second.width

/-- Whether every condition on what precedes takes a fixed number of
characters. -/
def fixedBehind : Expr → Bool
  | .empty | .code _ _ | .any _ | .set _ _ _ | .anchor _ _ | .again _ _ _ => true
  | .seq first second | .alt first second | .ifCaptured _ first second =>
      first.fixedBehind && second.fixedBehind
  | .part body | .group _ body | .atomic body | .repeated _ _ _ body | .ahead _ body =>
      body.fixedBehind
  | .behind _ body => body.width.isFixed && body.fixedBehind

end Expr

end Gherkin.Pattern

namespace Gherkin

/-- A step pattern: the text it was written as, and what it means. -/
structure Pattern where
  text : String
  expr : Pattern.Expr
  /-- Number of captured groups. -/
  groups : Nat := 0
  /-- The groups that have names, in order. -/
  names : List (String × Nat) := []
  deriving Repr, DecidableEq

end Gherkin
