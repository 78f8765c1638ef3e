import Gherkin.Text.Decimal
import Gherkin.Text.Integer
import Gherkin.Text.Quoted

/-!
# JSON documents

Documents whose fields keep their order, their text (indented, in ASCII, with
everything else written by code units), and looking into them.
-/

namespace Gherkin

/-- A JSON document.  A number is kept as it is written. -/
inductive Json where
  | null
  | bool (value : Bool)
  | number (text : String)
  | string (text : String)
  | array (items : List Json)
  | object (fields : List (String × Json))

namespace Json

/-- An integer. -/
def int (n : Int) : Json :=
  number (toString n)

/-- A string, or null. -/
def ofOption : Option String → Json
  | none => null
  | some text => string text

/-- A list of strings. -/
def strings (texts : List String) : Json :=
  array (texts.map string)

/-- A number. -/
def nat (n : Nat) : Json :=
  int n

/-- A code unit as it is written. -/
def unit (n : Nat) : List Char :=
  '\\' :: 'u' :: Text.hexadecimal 4 n

/-- A character in a string.  Beyond the first plane it is a pair of units. -/
def escapeChar (c : Char) : List Char :=
  if c = '\x22' then ['\\', '\x22']
  else if c = '\\' then ['\\', '\\']
  else if c = '\n' then ['\\', 'n']
  else if c = '\r' then ['\\', 'r']
  else if c = '\t' then ['\\', 't']
  else if c.toNat = 8 then ['\\', 'b']
  else if c.toNat = 12 then ['\\', 'f']
  else if 32 ≤ c.toNat && c.toNat ≤ 126 then [c]
  else if c.toNat < 0x10000 then unit c.toNat
  else
    let rest := c.toNat - 0x10000
    unit (0xD800 + rest / 0x400) ++ unit (0xDC00 + rest % 0x400)

/-- A string between quotes. -/
def quoted (text : String) : String :=
  String.ofList ('\x22' :: text.toList.flatMap escapeChar ++ ['\x22'])

/-- A line break and the indentation of a level. -/
def newLine (indent level : Nat) : String :=
  String.ofList ('\n' :: List.replicate (indent * level) ' ')

mutual

/-- The text of a document at a level of indentation. -/
def renderAt (indent level : Nat) : Json → String
  | .null => "null"
  | .bool value => if value then "true" else "false"
  | .number text => text
  | .string text => quoted text
  | .array [] => "[]"
  | .array (item :: items) =>
      "[" ++ newLine indent (level + 1) ++ renderAt indent (level + 1) item ++
        renderItems indent level items ++ newLine indent level ++ "]"
  | .object [] => "\x7b\x7d"
  | .object ((name, value) :: fields) =>
      "\x7b" ++ newLine indent (level + 1) ++ quoted name ++ ": " ++
        renderAt indent (level + 1) value ++ renderFields indent level fields ++
        newLine indent level ++ "\x7d"

/-- The items of a list after the first. -/
def renderItems (indent level : Nat) : List Json → String
  | [] => ""
  | item :: items =>
      "," ++ newLine indent (level + 1) ++ renderAt indent (level + 1) item ++
        renderItems indent level items

/-- The fields of an object after the first. -/
def renderFields (indent level : Nat) : List (String × Json) → String
  | [] => ""
  | (name, value) :: fields =>
      "," ++ newLine indent (level + 1) ++ quoted name ++ ": " ++
        renderAt indent (level + 1) value ++ renderFields indent level fields

end

/-- The text of a document, every item on a line of its own. -/
def render (indent : Nat) (json : Json) : String :=
  renderAt indent 0 json

/-! ## Looking into documents -/

/-- The field of a name.  A field that holds nothing counts as absent. -/
def field? (json : Json) (name : String) : Option Json :=
  match json with
  | object fields =>
      match fields.lookup name with
      | some null => none
      | found => found
  | _ => none

/-- The text of a string. -/
def string? : Json → Option String
  | string text => some text
  | _ => none

/-- The value of a number without a fraction. -/
def int? : Json → Option Int
  | number text => (Text.readInteger text).toOption
  | _ => none

/-- The value of a number, to the nearest that can be held. -/
def float? : Json → Option Float
  | number text => Text.readDecimal text.toList
  | _ => none

/-- A truth value. -/
def bool? : Json → Option Bool
  | bool value => some value
  | _ => none

/-- The items of a list. -/
def items? : Json → Option (List Json)
  | array items => some items
  | _ => none

/-- The fields of an object. -/
def fields? : Json → Option (List (String × Json))
  | object fields => some fields
  | _ => none

/-- The string in a field. -/
def stringAt? (json : Json) (name : String) : Option String :=
  (json.field? name).bind string?

/-- The integer in a field. -/
def intAt? (json : Json) (name : String) : Option Int :=
  (json.field? name).bind int?

/-- The items of the list in a field. -/
def itemsAt? (json : Json) (name : String) : Option (List Json) :=
  (json.field? name).bind items?

/-- The items of the list in a field; none if there is no such list. -/
def itemsAt (json : Json) (name : String) : List Json :=
  (json.itemsAt? name).getD []

/-- The texts of the list of strings in a field. -/
def stringsAt? (json : Json) (name : String) : Option (List String) :=
  (json.itemsAt? name).map fun items => items.filterMap string?

/-- The texts of the list of strings in a field; none if there is no list. -/
def stringsAt (json : Json) (name : String) : List String :=
  (json.stringsAt? name).getD []

/-- Whether a field holds the given truth value. -/
def flagAt (json : Json) (name : String) (value : Bool) : Bool :=
  (json.field? name).bind bool? == some value

end Json

end Gherkin
