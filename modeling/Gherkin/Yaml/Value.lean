import Gherkin.Fault
import Gherkin.Json
import Gherkin.Text.Quoted
import Gherkin.Text.Shortest

/-!
# Values of settings

What settings can hold: nothing, truth values, numbers, texts, lists and mappings,
and values of other kinds, which no setting takes.  The keys of a mapping are
values too, but no lists or mappings.
-/

namespace Gherkin.Yaml

/-- A value of settings. -/
inductive Value where
  | null
  | bool (value : Bool)
  | int (n : Int)
  | float (x : Float)
  | string (text : String)
  | list (items : List Value)
  | mapping (entries : List (Value × Value))
  /-- Any other value, such as a date or a list that contains itself: the name of its kind, and
  the value as messages show it, if they can. -/
  | other (kind : String) (shown : Option String)

namespace Value

/-- The name of a kind of value. -/
def kind : Value → String
  | null => "NoneType"
  | bool _ => "bool"
  | int _ => "int"
  | float _ => "float"
  | string _ => "str"
  | list _ => "list"
  | mapping _ => "dict"
  | other kind _ => kind

mutual

/-- A value as messages show it. -/
def describe : Value → String
  | .null => "None"
  | .bool value => if value then "True" else "False"
  | .int n => toString n
  | .float x => Text.shortest x
  | .string text => Text.quoted text
  | .list items => "[" ++ ", ".intercalate (describeItems items) ++ "]"
  | .mapping entries => "\x7b" ++ ", ".intercalate (describeEntries entries) ++ "\x7d"
  | .other _ shown => shown.getD ""

/-- The items of a list as messages show them. -/
def describeItems : List Value → List String
  | [] => []
  | item :: items => item.describe :: describeItems items

/-- The entries of a mapping as messages show them. -/
def describeEntries : List (Value × Value) → List String
  | [] => []
  | (key, value) :: entries =>
      (key.describe ++ ": " ++ value.describe) :: describeEntries entries

end

mutual

/-- Whether messages can show a value.  An integer with too many digits cannot be written. -/
def isShown : Value → Bool
  | .int n => n.natAbs < 10 ^ Text.maxIntegerDigits
  | .list items => areShown items
  | .mapping entries => entriesAreShown entries
  | .other _ shown => shown.isSome
  | .null | .bool _ | .float _ | .string _ => true

/-- Whether messages can show the items of a list. -/
def areShown : List Value → Bool
  | [] => true
  | item :: items => item.isShown && areShown items

/-- Whether messages can show the entries of a mapping. -/
def entriesAreShown : List (Value × Value) → Bool
  | [] => true
  | (key, value) :: entries => key.isShown && value.isShown && entriesAreShown entries

end

/-- The text of a string. -/
def string? : Value → Option String
  | string text => some text
  | _ => none

/-- Whether a value can be a key. -/
def canBeKey : Value → Bool
  | list _ | mapping _ => false
  | _ => true

/-- The number that a value is, as a quotient.  A truth value counts as zero or
one. -/
def quotient? : Value → Option (Int × Nat)
  | bool value => some (if value then 1 else 0, 1)
  | int n => some (n, 1)
  | float x =>
      (Text.Dyadic.ofFloat? x).map fun x =>
        let (num, den) := x.ratio
        (if x.negative then -(num : Int) else num, den)
  | _ => none

/-- Whether two values are the same key.  Numbers are the same when they are
equal, of whatever kind. -/
def sameKey (a b : Value) : Bool :=
  match a, b with
  | null, null => true
  | string s, string t => s == t
  | float x, float y => x == y
  | other kind shown, other otherKind otherShown =>
      kind == otherKind && shown == otherShown
  | a, b =>
      match a.quotient?, b.quotient? with
      | some (n, d), some (m, e) => n * e == m * d
      | _, _ => false

/-- Give a key a value.  A key that is given again keeps its place. -/
def setEntry (key value : Value) : List (Value × Value) → List (Value × Value)
  | [] => [(key, value)]
  | (first, old) :: rest =>
      if sameKey first key then (first, value) :: rest
      else (first, old) :: setEntry key value rest

/-- The value of a key that is a text. -/
def find? (entries : List (Value × Value)) (key : String) : Option Value :=
  (entries.find? fun entry => sameKey entry.1 (string key)).map Prod.snd

/-- The number in a JSON document. -/
def ofNumeral (text : String) : Value :=
  match Text.readInteger text with
  | .ok n => int n
  | .error _ => float ((Text.readDecimal text.toList).getD 0)

mutual

/-- A JSON document as a value. -/
def ofJson : Json → Value
  | .null => null
  | .bool value => bool value
  | .number text => ofNumeral text
  | .string text => string text
  | .array items => list (ofItems items)
  | .object fields => mapping (ofFields fields)

/-- The items of a list of a JSON document as values. -/
def ofItems : List Json → List Value
  | [] => []
  | item :: items => ofJson item :: ofItems items

/-- The fields of an object of a JSON document as entries. -/
def ofFields : List (String × Json) → List (Value × Value)
  | [] => []
  | (name, value) :: fields => (string name, ofJson value) :: ofFields fields

end

end Value

/-- Why a text gives no value. -/
inductive Error where
  /-- The text is malformed, as the reason says. -/
  | malformed (reason : String)
  /-- Reading raised a fault. -/
  | raised (fault : Fault)

/-- What reads a text as the value that it holds; a text may hold nothing. -/
abbrev Reader := String → Except Error Value

end Gherkin.Yaml
