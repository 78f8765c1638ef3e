/-!
# Step keywords

A step opens with one of five words.  Given, When and Then say what the step
is; And and But only continue the step before them.
-/

namespace Gherkin

/-- The word a step opens with. -/
inductive Keyword where
  /-- Given: the context. -/
  | context
  /-- When: the action. -/
  | action
  /-- Then: the expected outcome. -/
  | outcome
  /-- And: one more of the kind before it. -/
  | and
  /-- But: one more of the kind before it. -/
  | but
  deriving Repr, DecidableEq

namespace Keyword

/-- The keyword as it is written. -/
def word : Keyword → String
  | context => "Given"
  | action => "When"
  | outcome => "Then"
  | and => "And"
  | but => "But"

/-- Every keyword, in the order in which a line is tried against them. -/
def all : List Keyword := [context, action, outcome, and, but]

/-- The keyword that is written as a word. -/
def ofWord? (word : String) : Option Keyword :=
  all.find? fun keyword => keyword.word == word

/-- And and But take their meaning from the step before them. -/
def isConjunction : Keyword → Bool
  | and | but => true
  | _ => false

/-- What a keyword stands for after a step of the given kind: a conjunction
repeats that kind, and opens with a context where there is no such step. -/
def resolve (previous : Option Keyword) (keyword : Keyword) : Keyword :=
  if keyword.isConjunction then previous.getD context else keyword

end Keyword

end Gherkin
