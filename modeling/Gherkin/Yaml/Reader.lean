import Gherkin.Yaml.Plain
import Gherkin.Yaml.Token

/-!
# Reading settings

A reader for the command line: a settings text holds at most one document, a value
made of scalars, lists and mappings, without anchors, tags and directives.  A missing
value is nothing.  A key that is given again changes its value and keeps its place.
-/

namespace Gherkin.Yaml

/-- The value of a scalar. -/
def scalarValue? (isPlain : Bool) (text : List Char) : Option Value :=
  if isPlain then plainValue? (String.ofList text) else some (.string (String.ofList text))

/-- A mapping of entries in the order in which they are given. -/
def mappingOf? (entries : List (Value × Value)) : Option Value :=
  if entries.all fun entry => entry.1.canBeKey then
    some (.mapping (entries.foldl (fun record entry => Value.setEntry entry.1 entry.2 record) []))
  else none

/-- Whether the next token is one of the given ones, which end a value. -/
def isNext (ends : List Token) (tokens : List Token) : Bool :=
  match tokens with
  | [] => true
  | token :: _ => ends.contains token

mutual

/-- Read a value.  A list without indentation of its own may stand as the value
of a key. -/
def readValue : Nat → Bool → List Token → Option (Value × List Token)
  | 0, _, _ => none
  | fuel + 1, indentless, tokens =>
      match tokens with
      | .scalar isPlain text :: rest => (scalarValue? isPlain text).map (·, rest)
      | .openList :: rest =>
          (readFlowItems fuel true rest).map fun (items, rest) => (.list items, rest)
      | .openMapping :: rest => do
          let (entries, rest) ← readFlowEntries fuel true rest
          return (← mappingOf? entries, rest)
      | .listStart :: rest =>
          match readItems fuel [.entry, .blockEnd] rest with
          | some (items, .blockEnd :: rest) => some (.list items, rest)
          | _ => none
      | .mappingStart :: rest => do
          let (entries, rest) ← readEntries fuel rest
          return (← mappingOf? entries, rest)
      | .entry :: _ =>
          if indentless then
            (readItems fuel [.entry, .key, .value, .blockEnd] tokens).map fun (items, rest) =>
              (.list items, rest)
          else none
      | _ => none

/-- Read a value, or nothing where one of the given tokens follows. -/
def readOptional : Nat → Bool → List Token → List Token → Option (Value × List Token)
  | 0, _, _, _ => none
  | fuel + 1, indentless, ends, tokens =>
      if isNext ends tokens then some (.null, tokens) else readValue fuel indentless tokens

/-- Read the entries of a list, as long as there are any. -/
def readItems : Nat → List Token → List Token → Option (List Value × List Token)
  | 0, _, _ => none
  | fuel + 1, ends, .entry :: tokens => do
      let (item, rest) ← readOptional fuel false ends tokens
      let (items, rest) ← readItems fuel ends rest
      return (item :: items, rest)
  | _ + 1, _, tokens => some ([], tokens)

/-- Read the entries of a mapping by indentation, and its end. -/
def readEntries : Nat → List Token → Option (List (Value × Value) × List Token)
  | 0, _ => none
  | _ + 1, .blockEnd :: tokens => some ([], tokens)
  | fuel + 1, .key :: tokens => do
      let (key, rest) ← readOptional fuel true [.key, .value, .blockEnd] tokens
      let (value, rest) ←
        match rest with
        | .value :: rest => readOptional fuel true [.key, .value, .blockEnd] rest
        | rest => some (.null, rest)
      let (entries, rest) ← readEntries fuel rest
      return ((key, value) :: entries, rest)
  | _ + 1, _ => none

/-- Read the key and the value of an entry in brackets, after the mark of the
key. -/
def readFlowPair : Nat → Token → List Token → Option ((Value × Value) × List Token)
  | 0, _, _ => none
  | fuel + 1, close, tokens => do
      let (key, rest) ← readOptional fuel false [.value, .comma, close] tokens
      match rest with
      | .value :: rest =>
          let (value, rest) ← readOptional fuel false [.comma, close] rest
          return ((key, value), rest)
      | rest => return ((key, .null), rest)

/-- Read the items of a list in brackets, and its end.  Every item but the first
has a comma before it. -/
def readFlowItems : Nat → Bool → List Token → Option (List Value × List Token)
  | 0, _, _ => none
  | _ + 1, _, .closeList :: tokens => some ([], tokens)
  | fuel + 1, isFirst, tokens => do
      let tokens ←
        match isFirst, tokens with
        | true, tokens => some tokens
        | false, .comma :: tokens => some tokens
        | false, _ => none
      match tokens with
      | .closeList :: rest => return ([], rest)
      | .key :: rest =>
          let (pair, rest) ← readFlowPair fuel .closeList rest
          let item ← mappingOf? [pair]
          let (items, rest) ← readFlowItems fuel false rest
          return (item :: items, rest)
      | tokens =>
          let (item, rest) ← readValue fuel false tokens
          let (items, rest) ← readFlowItems fuel false rest
          return (item :: items, rest)

/-- Read the entries of a mapping in brackets, and its end.  Every entry but the
first has a comma before it. -/
def readFlowEntries : Nat → Bool → List Token → Option (List (Value × Value) × List Token)
  | 0, _, _ => none
  | _ + 1, _, .closeMapping :: tokens => some ([], tokens)
  | fuel + 1, isFirst, tokens => do
      let tokens ←
        match isFirst, tokens with
        | true, tokens => some tokens
        | false, .comma :: tokens => some tokens
        | false, _ => none
      match tokens with
      | .closeMapping :: rest => return ([], rest)
      | .key :: rest =>
          let (pair, rest) ← readFlowPair fuel .closeMapping rest
          let (entries, rest) ← readFlowEntries fuel false rest
          return (pair :: entries, rest)
      | tokens =>
          let (key, rest) ← readValue fuel false tokens
          let (entries, rest) ← readFlowEntries fuel false rest
          return ((key, .null) :: entries, rest)

end

/-- Read the end of the only document. -/
def atStreamEnd (tokens : List Token) : Bool :=
  tokens.all (· == .documentEnd)

/-- Read the only document of a list of tokens. -/
def readDocument? (tokens : List Token) : Option Value :=
  let fuel := 4 * tokens.length + 4
  match tokens with
  | [] => some .null
  | .documentStart :: rest =>
      match readOptional fuel false [.documentStart, .documentEnd] rest with
      | some (value, rest) => if atStreamEnd rest then some value else none
      | none => none
  | tokens =>
      match readValue fuel false tokens with
      | some (value, rest) => if atStreamEnd rest then some value else none
      | none => none

/-- The value that a settings text holds; an empty text holds nothing. -/
def read? (text : String) : Option Value :=
  (tokens? text).bind readDocument?

/-- The reader of settings texts; what it says of a malformed one. -/
def reader (reason : String) : Reader := fun text =>
  match read? text with
  | some value => .ok value
  | none => .error (.malformed reason)

end Gherkin.Yaml
