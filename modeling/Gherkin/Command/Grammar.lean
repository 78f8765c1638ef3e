import Gherkin.Text.Digit
import Gherkin.Text.Quoted
import Gherkin.Text.Search

/-!
# Grammar of command lines

A command line is made of options, which start with a hyphen, and words.  A long
option may be cut short as long as it is the only one that starts that way, and
may have its value after an equals sign; short options may be joined, and the
last of them may have its value joined to it.  After two hyphens alone
everything is a word.
-/

namespace Gherkin.Command

/-- An option of a grammar. -/
structure OptionRule where
  /-- The ways it is written, all with their hyphens. -/
  names : List String
  /-- Whether a value follows it. -/
  takesValue : Bool := true
  /-- The values that are allowed; all of them if none is listed. -/
  choices : List String := []
  deriving Repr, DecidableEq

/-- What a command line can be made of. -/
structure Grammar where
  /-- The name of the program, for messages. -/
  program : String
  rules : List OptionRule
  /-- The first word takes everything after it.  Otherwise the words that stand
  together are taken, and only the first of such groups. -/
  firstTakesAll : Bool := false

/-- Why a command line is not carried out. -/
inductive Stop where
  /-- It asks for help on a program. -/
  | help (program : String)
  /-- It asks for the version. -/
  | version
  /-- It is no command line of a program. -/
  | misuse (program : String) (problem : String)
  deriving Repr, DecidableEq

/-- An option as it was found in an argument. -/
structure Found where
  rule : OptionRule
  /-- The way in which it is written. -/
  name : String
  /-- The value joined to it. -/
  value : Option String := none
  /-- Whether an equals sign joins the value. -/
  equals : Bool := false

/-- A short option with what is joined to it, from what follows its letter. -/
def Found.ofTail (rule : OptionRule) (name : String) : List Char → Found
  | [] => { rule, name }
  | '=' :: value => { rule, name, value := some (String.ofList value), equals := true }
  | value => { rule, name, value := some (String.ofList value) }

/-- An argument by its kind. -/
inductive Piece where
  | word (text : String)
  /-- Two hyphens alone. -/
  | dashes
  /-- An option, or what looks like one and is not known. -/
  | option (text : String) (found : Option Found)

namespace Piece

/-- An argument as it stands. -/
def text : Piece → String
  | word text => text
  | dashes => "--"
  | option text _ => text

/-- Whether an argument is an option. -/
def isOption : Piece → Bool
  | option _ _ => true
  | _ => false

end Piece

/-- The option of an event, and its value. -/
abbrev Event := OptionRule × Option String

/-- What an argument with options gives. -/
structure Taken where
  events : List Event := []
  /-- The letters at its end that are no options. -/
  extras : List String := []
  /-- The arguments that follow. -/
  rest : List Piece

/-- The name of an option in messages. -/
def OptionRule.title (rule : OptionRule) : String :=
  "/".intercalate rule.names

/-- The message on an option. -/
def OptionRule.problem (rule : OptionRule) (problem : String) : String :=
  "argument " ++ rule.title ++ ": " ++ problem

/-- The message on a value that is not among the choices. -/
def notAmong (value : String) (choices : List String) : String :=
  "invalid choice: " ++ Text.quoted value ++ " (choose from " ++
    ", ".intercalate (choices.map Text.quoted) ++ ")"

/-- Whether a text begins with another. -/
def beginsWith (text start : String) : Bool :=
  (Text.dropPrefix? start.toList text.toList).isSome

/-- What stands before and after the first equals sign. -/
def splitEquals (text : String) : Option (String × String) :=
  let cs := text.toList
  match cs.dropWhile (· != '=') with
  | [] => none
  | _ :: value => some (String.ofList (cs.takeWhile (· != '=')), String.ofList value)

/-- Whether a text looks like a negative number. -/
def isNegativeNumber (text : String) : Bool :=
  match text.toList with
  | '-' :: cs =>
      let fraction := cs.dropWhile Text.isDecimal
      match fraction with
      | [] => !cs.isEmpty
      | '.' :: digits => !digits.isEmpty && digits.all Text.isDecimal
      | _ => false
  | _ => false

namespace Grammar

/-- Fail with a message. -/
def misuse {α : Type} (grammar : Grammar) (problem : String) : Except Stop α :=
  .error (.misuse grammar.program problem)

/-- The options with every way of writing them, in order. -/
def written (grammar : Grammar) : List (String × OptionRule) :=
  grammar.rules.flatMap fun rule => rule.names.map fun name => (name, rule)

/-- The option that is written in a given way. -/
def rule? (grammar : Grammar) (name : String) : Option OptionRule :=
  grammar.written.lookup name

/-- The options that a long option cut short can stand for. -/
def expansions (grammar : Grammar) (text : String) : List Found :=
  let (start, value) :=
    match splitEquals text with
    | some (start, value) => (start, some value)
    | none => (text, none)
  grammar.written.filterMap fun (name, rule) =>
    if beginsWith name start then some { rule, name, value, equals := value.isSome }
    else none

/-- The options that a short option with something joined to it can stand
for. -/
def joined (grammar : Grammar) (text : String) : List Found :=
  let short := String.ofList (text.toList.take 2)
  let value := String.ofList (text.toList.drop 2)
  grammar.written.filterMap fun (name, rule) =>
    if name == short then some { rule, name, value := some value }
    else if beginsWith name text then some { rule, name }
    else none

/-- The kind of an argument that starts with a hyphen and is no known option
as it stands. -/
def classifyUnknown (grammar : Grammar) (text : String) : Except Stop Piece :=
  let candidates :=
    if beginsWith text "--" then grammar.expansions text else grammar.joined text
  match candidates with
  | [found] => .ok (.option text (some found))
  | [] =>
      if isNegativeNumber text || text.toList.contains ' ' then .ok (.word text)
      else .ok (.option text none)
  | several =>
      grammar.misuse ("ambiguous option: " ++ text ++ " could match " ++
        ", ".intercalate (several.map Found.name))

/-- The kind of an argument before two hyphens alone. -/
def classify (grammar : Grammar) (text : String) : Except Stop Piece :=
  if !beginsWith text "-" then .ok (.word text)
  else
    match grammar.rule? text with
    | some rule => .ok (.option text (some { rule, name := text }))
    | none =>
        if text.length = 1 then .ok (.word text)
        else
          match splitEquals text with
          | some (name, value) =>
              match grammar.rule? name with
              | some rule =>
                  .ok (.option text (some { rule, name, value := some value, equals := true }))
              | none => grammar.classifyUnknown text
          | none => grammar.classifyUnknown text

/-- The kinds of all arguments. -/
def pieces (grammar : Grammar) : List String → Except Stop (List Piece)
  | [] => .ok []
  | "--" :: rest => .ok (.dashes :: rest.map .word)
  | text :: rest => do
      let piece ← grammar.classify text
      let later ← grammar.pieces rest
      return piece :: later

/-- The options that are joined in one argument, with the value of the last.
The fuel is the length of the joined text. -/
def takeOptions (grammar : Grammar) : Nat → Found → List Piece → Except Stop Taken
  | fuel, found, rest =>
      let rule := found.rule
      match found.value with
      | none =>
          if !rule.takesValue then .ok { events := [(rule, none)], rest }
          else
            match rest with
            | .word value :: rest => .ok { events := [(rule, some value)], rest }
            | _ => grammar.misuse (rule.problem "expected one argument")
      | some value =>
          if rule.takesValue then .ok { events := [(rule, some value)], rest }
          else
            let ignored : Except Stop Taken :=
              grammar.misuse (rule.problem ("ignored explicit argument " ++ Text.quoted value))
            match fuel, value.toList with
            | fuel + 1, c :: cs =>
                if beginsWith found.name "--" || found.equals || c = '-' then ignored
                else
                  let name := String.ofList ['-', c]
                  match grammar.rule? name with
                  | none =>
                      .ok { events := [(rule, none)], extras := ["-" ++ value], rest }
                  | some next => do
                      let taken ← grammar.takeOptions fuel (.ofTail next name cs) rest
                      return { taken with events := (rule, none) :: taken.events }
            | _, _ => ignored

/-- The name of the option that asks for help. -/
def helpName : String := "--help"

/-- The name of the option that asks for the version. -/
def versionName : String := "--version"

/-- Check the value of an option, and stop where the option says so. -/
def perform (grammar : Grammar) (event : Event) : Except Stop Unit :=
  let (rule, value) := event
  if rule.names.contains helpName then .error (.help grammar.program)
  else if rule.names.contains versionName then .error .version
  else
    match value with
    | some value =>
        if rule.choices.isEmpty || rule.choices.contains value then .ok ()
        else grammar.misuse (rule.problem (notAmong value rule.choices))
    | none => .ok ()

end Grammar

/-- A command line that was read. -/
structure Reading where
  events : List Event := []
  /-- The words that were taken; `none` before any were. -/
  words : Option (List String) := none
  /-- The arguments that nothing could be done with. -/
  extras : List String := []

namespace Grammar

/-- The words at the front that are taken together, and how many arguments
these are. -/
def takeWords (grammar : Grammar) (pieces : List Piece) : Option (List String × Nat) :=
  let group := pieces.takeWhile (!·.isOption)
  if grammar.firstTakesAll then
    if group.any (fun piece => match piece with | .word _ => true | _ => false) then
      some (pieces.map Piece.text, pieces.length)
    else none
  else some ((group.map Piece.text).erase "--", group.length)

/-- Read arguments from the first to the last.  The fuel is their number. -/
def readPieces (grammar : Grammar) : Nat → Reading → List Piece → Except Stop Reading
  | fuel, reading, pieces =>
      let taken? := if reading.words.isNone then grammar.takeWords pieces else none
      if !pieces.any Piece.isOption then
        match taken? with
        | some (words, count) =>
            .ok { reading with
              words := some words
              extras := reading.extras ++ (pieces.drop count).map Piece.text }
        | none => .ok { reading with extras := reading.extras ++ pieces.map Piece.text }
      else
        match fuel, pieces with
        | fuel + 1, .option text none :: rest =>
            grammar.readPieces fuel { reading with extras := reading.extras ++ [text] } rest
        | fuel + 1, .option text (some found) :: rest => do
            let taken ← grammar.takeOptions text.length found rest
            taken.events.forM grammar.perform
            grammar.readPieces fuel
              { reading with
                events := reading.events ++ taken.events
                extras := reading.extras ++ taken.extras }
              taken.rest
        | fuel + 1, piece :: rest =>
            match taken? with
            | some (words, count) =>
                grammar.readPieces fuel { reading with words := some words }
                  ((piece :: rest).drop count)
            | none =>
                grammar.readPieces fuel
                  { reading with extras := reading.extras ++ [piece.text] } rest
        | _, _ => .ok reading

/-- Read a command line. -/
def read (grammar : Grammar) (arguments : List String) : Except Stop Reading := do
  let pieces ← grammar.pieces arguments
  grammar.readPieces (pieces.length + 1) {} pieces

end Grammar

namespace Reading

/-- The values of an option, in order. -/
def values (reading : Reading) (name : String) : List String :=
  reading.events.filterMap fun (rule, value) =>
    if rule.names.contains name then value else none

/-- The last value of an option. -/
def value? (reading : Reading) (name : String) : Option String :=
  (reading.values name).getLast?

/-- Whether an option was given. -/
def has (reading : Reading) (name : String) : Bool :=
  reading.events.any fun (rule, _) => rule.names.contains name

end Reading

end Gherkin.Command
