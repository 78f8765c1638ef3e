import Gherkin.Text.Quoted

/-!
# Faults

What handlers raise, and what the functions do that fill registries and read
settings.  A fault has a name and says something; when it cannot say it, asking
for it raises another fault.
-/

namespace Gherkin

/-- What is raised. -/
structure Fault where
  /-- The name of the kind of fault. -/
  name : String
  /-- What it says; possibly nothing.  Asking for it may raise a fault. -/
  text : Except Fault String := .ok ""
  /-- When a handler raises it, it is no failure of the step but ends the whole run. -/
  escapes : Bool := false
  /-- The program reports it as a mistake that its user can mend. -/
  reported : Bool := false
  deriving Repr

namespace Fault

/-- A fault that says something. -/
def saying (name text : String) : Fault := { name, text := .ok text }

/-- What a fault says, or its name if it says nothing. -/
def detail (fault : Fault) : Except Fault String :=
  fault.text.map fun text => if text.isEmpty then fault.name else text

/-- What becomes of a fault that a handler raises: it is captured, with what it
says, or a fault escapes. -/
def capture (fault : Fault) : Except Fault String :=
  if fault.escapes then .error fault else fault.detail

/-- What a fault says when it breaks the program off. -/
def shown (fault : Fault) : String :=
  fault.text.toOption.getD ""

/-- Whether the program reports a fault that breaks it off; to do so it asks for its text. -/
def isMendable (fault : Fault) : Bool :=
  fault.reported && fault.text.isOk

/-- A failed assertion. -/
def assertion : Fault := { name := "AssertionError" }

/-- A failed look-up; it shows the key, if there is one, between quotes. -/
def lookup (key : Option String) : Fault :=
  saying "KeyError" ((key.map Text.quoted).getD "")

/-- A fault that ends the whole run. -/
def ending (name text : String) : Fault :=
  { saying name text with escapes := true }

end Fault

end Gherkin
