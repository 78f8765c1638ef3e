import Gherkin.Feature

/-!
# Errors of reading

A document that is no feature file is refused as a whole, with one cause at
one line.
-/

namespace Gherkin.Document

/-- What is wrong with a document. -/
inductive Cause where
  /-- The document does not open with a feature. -/
  | expectedFeature (found : String)
  /-- A header stands before the feature. -/
  | beforeFeature (keyword : String)
  /-- A second feature; the first one stands at the given line. -/
  | secondFeature (first : Int)
  /-- A feature without a name. -/
  | unnamedFeature
  /-- The document holds no feature at all. -/
  | noFeature
  /-- Tags above a background. -/
  | taggedBackground
  /-- A second background. -/
  | secondBackground
  /-- A background after a scenario. -/
  | lateBackground
  /-- Examples that belong to no outline. -/
  | strayExamples
  /-- An outline that has no examples. -/
  | noExamples (outline : String)
  /-- Tags above a step. -/
  | taggedStep
  /-- Tags with nothing after them. -/
  | danglingTags
  /-- A word of a tag line that is no tag. -/
  | invalidTag (word : String)
  /-- A step under examples. -/
  | stepAfterExamples
  /-- A step outside every block. -/
  | strayStep (line : String)
  /-- Free text where none is allowed. -/
  | strayText (line : String)
  /-- A row that does not end at a bar. -/
  | openRow
  /-- A row with another number of cells than the rows before it. -/
  | unevenRow (expected found : Nat)
  /-- A row that no step can take. -/
  | strayRow
  /-- A doc string that no step can take. -/
  | strayDocString
  /-- A doc string without a closing fence. -/
  | openDocString
  deriving Repr, DecidableEq

/-- The wording of a cause. -/
def Cause.message : Cause → String
  | expectedFeature found => "Expected 'Feature:' but found '" ++ found ++ "'"
  | beforeFeature keyword => "'" ++ keyword ++ "' before 'Feature:'"
  | secondFeature first =>
      "Second 'Feature:' (first at line " ++ toString first ++
        "); only one Feature per file"
  | unnamedFeature => "Feature has no name"
  | noFeature => "No 'Feature:' found"
  | taggedBackground => "Tags are not allowed on Background"
  | secondBackground => "Duplicate Background; only one per Feature is allowed"
  | lateBackground => "Background must come before the first Scenario"
  | strayExamples => "'Examples:' outside a Scenario Outline"
  | noExamples outline => "Scenario Outline '" ++ outline ++ "' has no Examples"
  | taggedStep => "Tags must precede Feature, Scenario, Scenario Outline or Examples"
  | danglingTags => "Tags at end of file are not attached to anything"
  | invalidTag word => "Invalid tag '" ++ word ++ "'"
  | stepAfterExamples => "Step after 'Examples:'; steps belong before the Examples blocks"
  | strayStep line =>
      "Step '" ++ line ++ "' outside any Background, Scenario or Scenario Outline"
  | strayText line => "Unexpected text '" ++ line ++ "'"
  | openRow => "Table row must end with '|'"
  | unevenRow expected found =>
      "Inconsistent cell count: expected " ++ toString expected ++ ", got " ++
        toString found
  | strayRow => "Table has no preceding step"
  | strayDocString => "Doc string has no preceding step"
  | openDocString => "Unterminated doc string"

/-- A refused document: the cause and the line it is reported at. -/
structure Error where
  cause : Cause
  line : Int
  source : Option String := none
  deriving Repr, DecidableEq

/-- The full message: the place, then the cause. -/
def Error.message (error : Error) : String :=
  location error.source error.line ++ ": " ++ error.cause.message

end Gherkin.Document
