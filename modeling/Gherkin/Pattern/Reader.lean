import Gherkin.Pattern.Error
import Gherkin.Pattern.Expr
import Gherkin.Text.Integer
import Gherkin.Text.Letter

/-!
# Reading patterns

Patterns are read from left to right by recursive descent, looking one sign
ahead.  A sign is a character or an escaped character.  A problem is reported
at the position where reading stopped, moved back by the length of what is
refused.
-/

namespace Gherkin.Pattern

/-- A character of a pattern, on its own or after a backslash. -/
structure Sign where
  escaped : Bool
  char : Char
  deriving Repr, DecidableEq

namespace Sign

/-- The text of a sign. -/
def text (sign : Sign) : List Char :=
  if sign.escaped then ['\\', sign.char] else [sign.char]

/-- Whether a sign is the given character, not escaped. -/
def isPlain (sign : Sign) (c : Char) : Bool :=
  !sign.escaped && sign.char == c

end Sign

/-- The signs of a pattern; the flag tells that it ends in a lone backslash. -/
def signs : List Char → List Sign × Bool
  | [] => ([], false)
  | ['\\'] => ([], true)
  | '\\' :: c :: cs =>
      let (rest, dangling) := signs cs
      (⟨true, c⟩ :: rest, dangling)
  | c :: cs =>
      let (rest, dangling) := signs cs
      (⟨false, c⟩ :: rest, dangling)

/-- The characters that a pattern can refer to by name. -/
class CharNames where
  /-- The character of a name. -/
  char? : String → Option Char

/-- No character has a name. -/
@[reducible]
def CharNames.empty : CharNames := ⟨fun _ => none⟩

/-- What is known while a pattern is being read. -/
structure ReadState where
  /-- The signs still to be read. -/
  rest : List Sign
  /-- A lone backslash follows the signs. -/
  dangling : Bool
  /-- The position of the next sign. -/
  position : Nat := 0
  /-- The choices made for the whole pattern. -/
  options : Options := {}
  /-- The letters that made them. -/
  letters : List Char := []
  /-- The groups opened so far; those that are closed have their width. -/
  groups : List (Option Width) := []
  /-- The names of groups. -/
  names : List (String × Nat) := []
  /-- Number of groups when the outermost condition on what precedes began. -/
  behind : Option Nat := none
  /-- Groups that conditions refer to, with the position of the reference. -/
  references : List (Nat × Nat) := []

/-- Reading a part of a pattern. -/
abbrev Reading := StateT ReadState (Except (Problem × Option Nat))

/-- Refuse the pattern, the given number of characters back. -/
def refuse {α : Type} (problem : Problem) (back : Nat := 0) : Reading α := do
  throw (problem, some ((← get).position - back))

/-- The next sign. -/
def peek : Reading (Option Sign) := do
  return (← get).rest.head?

/-- A lone backslash is refused as soon as it is the next sign. -/
def checkDangling : Reading Unit := do
  let state ← get
  if state.rest.isEmpty && state.dangling then
    throw (.danglingEscape, some state.position)

/-- Pass over the next sign. -/
def skip : Reading Unit := do
  let state ← get
  match state.rest with
  | [] => pure ()
  | sign :: rest =>
      set { state with rest, position := state.position + sign.text.length }
      checkDangling

/-- Read the next sign. -/
def take : Reading (Option Sign) := do
  let sign ← peek
  skip
  return sign

/-- Read the given character if it is next. -/
def accept (c : Char) : Reading Bool := do
  match ← peek with
  | some sign =>
      if sign.isPlain c then
        skip
        return true
      else return false
  | none => return false

/-- Read up to `n` characters of a kind. -/
def takeSome (kind : Char → Bool) : Nat → Reading (List Char)
  | 0 => return []
  | n + 1 => do
      match ← peek with
      | some sign =>
          if !sign.escaped && kind sign.char then
            skip
            return sign.char :: (← takeSome kind n)
          else return []
      | none => return []

/-- Read a name up to its terminator.  The fuel bounds the length of the
name. -/
def nameUpTo (terminator : Char) (ifMissing : Problem) : Nat → List Char → Reading (List Char)
  | 0, name => return name
  | fuel + 1, name => do
      match ← take with
      | none =>
          if name.isEmpty then refuse ifMissing
          else refuse (.openGroupName terminator) name.length
      | some sign =>
          if sign.isPlain terminator then
            if name.isEmpty then refuse ifMissing 1
            return name
          else nameUpTo terminator ifMissing fuel (name ++ sign.text)

/-- The value of hexadecimal digits. -/
def hexValue (digits : List Char) : Nat :=
  digits.foldl
    (fun n c =>
      16 * n +
        (if c.isDigit then c.toNat - 48
        else if 'a' ≤ c && c ≤ 'f' then c.toNat - 87
        else c.toNat - 55)) 0

/-- A hexadecimal digit. -/
def isHexDigit (c : Char) : Bool :=
  c.isDigit || ('a' ≤ c && c ≤ 'f') || ('A' ≤ c && c ≤ 'F')

/-- An octal digit. -/
def isOctalDigit (c : Char) : Bool :=
  '0' ≤ c && c ≤ '7'

/-- The value of digits in the given base. -/
def valueIn (base : Nat) (digits : List Char) : Nat :=
  digits.foldl (fun n c => base * n + (c.toNat - 48)) 0

/-- Read the digits of an escape that names a code point. -/
def hexEscape (letter : Char) (count : Nat) : Reading Nat := do
  let digits ← takeSome isHexDigit count
  let escape := '\\' :: letter :: digits
  if digits.length < count then
    refuse (.incompleteEscape (String.ofList escape)) escape.length
  let value := hexValue digits
  if 0x110000 ≤ value then refuse (.badEscape (String.ofList escape)) escape.length
  return value

/-- Escapes that stand for one control character. -/
def controlEscape? : Char → Option Nat
  | 'a' => some 7
  | 'b' => some 8
  | 'f' => some 12
  | 'n' => some 10
  | 'r' => some 13
  | 't' => some 9
  | 'v' => some 11
  | '\\' => some 92
  | _ => none

/-- Escapes that stand for a category. -/
def category? : Char → Option SetItem
  | 'd' => some (.category .digit false)
  | 'D' => some (.category .digit true)
  | 's' => some (.category .space false)
  | 'S' => some (.category .space true)
  | 'w' => some (.category .word false)
  | 'W' => some (.category .word true)
  | _ => none

/-- Read what follows an escape that names a code point; `none` for any other
escape. -/
def codeEscape [CharNames] (c : Char) : Reading (Option Nat) := do
  match c with
  | 'x' => return some (← hexEscape c 2)
  | 'u' => return some (← hexEscape c 4)
  | 'U' => return some (← hexEscape c 8)
  | 'N' =>
      if !(← accept '\x7b') then refuse .noCharacterNameBrace
      let name ← nameUpTo '\x7d' .noCharacterName ((← get).rest.length + 1) []
      match CharNames.char? (String.ofList name) with
      | some named => return some named.toNat
      | none => refuse (.unknownCharacterName (String.ofList name)) (name.length + 4)
  | _ => return none

/-- Read the rest of an escape in a set. -/
def setEscape [CharNames] (c : Char) : Reading SetItem := do
  match controlEscape? c, category? c with
  | some code, _ => return .code code
  | none, some item => return item
  | none, none =>
      match ← codeEscape c with
      | some code => return .code code
      | none =>
          if isOctalDigit c then
            let digits := c :: (← takeSome isOctalDigit 2)
            let value := valueIn 8 digits
            if 0o377 < value then
              refuse (.octalTooLarge (String.ofList ('\\' :: digits))) (digits.length + 1)
            return .code value
          else if c.isAlphanum then refuse (.badEscape (String.ofList ['\\', c])) 2
          else return .code c.toNat

/-- The item a sign stands for in a set. -/
def setSign [CharNames] (sign : Sign) : Reading SetItem :=
  if sign.escaped then setEscape sign.char else return .code sign.char.toNat

/-- Read the items of a set up to its closing bracket.  `start` is the position
of the opening one.  The fuel bounds the number of items. -/
def setItems [CharNames] (start : Nat) : Nat → List SetItem → Reading (List SetItem)
  | 0, items => return items
  | fuel + 1, items => do
      let openSet {α : Type} : Reading α := throw (.openSet, some start)
      match ← take with
      | none => openSet
      | some sign =>
          if sign.isPlain ']' && !items.isEmpty then return items
          let first ← setSign sign
          if ← accept '-' then
            match ← take with
            | none => openSet
            | some other =>
                if other.isPlain ']' then return items ++ [first, .code 45]
                let last ← setSign other
                let refuseRange {α : Type} : Reading α :=
                  refuse (.badRange (String.ofList sign.text) (String.ofList other.text))
                    (sign.text.length + 1 + other.text.length)
                match first, last with
                | .code low, .code high =>
                    if high < low then refuseRange
                    setItems start fuel (items ++ [.range low high])
                | _, _ => refuseRange
          else setItems start fuel (items ++ [first])

/-- Whether a group is closed. -/
def isClosed (index : Nat) : Reading Bool := do
  return ((← get).groups[index - 1]?).join.isSome

/-- A condition on what precedes may refer only to groups before it. -/
def checkBehind (index : Nat) : Reading Unit := do
  match (← get).behind with
  | none => return
  | some count =>
      if !(← isClosed index) then refuse .referenceToOpenGroup
      if count < index then refuse .referenceInsideLookBehind

/-- A reference to a group that is closed. -/
def reference (options : Options) (index back : Nat) : Reading Expr := do
  match ((← get).groups[index - 1]?).join with
  | none => refuse .referenceToOpenGroup back
  | some width =>
      checkBehind index
      return .again options index width

/-- Read the rest of an escape outside sets. -/
def escape [CharNames] (options : Options) (c : Char) : Reading Expr := do
  match c with
  | 'A' => return .anchor options .textStart
  | 'Z' => return .anchor options .textEnd
  | 'b' => return .anchor options .wordEdge
  | 'B' => return .anchor options .noWordEdge
  | _ =>
  match category? c, controlEscape? c with
  | some item, _ => return .set options false [item]
  | none, some code => return .code options code
  | none, none =>
      match ← codeEscape c with
      | some code => return .code options code
      | none =>
          if c == '0' then
            let digits := c :: (← takeSome isOctalDigit 2)
            return .code options (valueIn 8 digits)
          else if c.isDigit then
            let second ← takeSome Char.isDigit 1
            let third ←
              match second with
              | [d] =>
                  if isOctalDigit c && isOctalDigit d then takeSome isOctalDigit 1
                  else pure []
              | _ => pure []
            let digits := c :: second ++ third
            if !third.isEmpty then
              let value := valueIn 8 digits
              if 0o377 < value then
                refuse (.octalTooLarge (String.ofList ('\\' :: digits))) (digits.length + 1)
              return .code options value
            let index := valueIn 10 digits
            if index ≤ (← get).groups.length then
              reference options index (digits.length + 1)
            else refuse (.badReference index) digits.length
          else if c.isAlpha then refuse (.badEscape (String.ofList ['\\', c])) 2
          else return .code options c.toNat

/-- The bounds of a repetition. -/
abbrev Bounds := Nat × Option Nat

/-- Repetitions beyond this number are refused. -/
def maxRepeat : Nat := 4294967295

/-- Read the bounds after an opening brace; `none` if there are none, and the
brace stands for itself. -/
def bounds : Reading (Option Bounds) := do
  let start ← get
  if (← peek).any (Sign.isPlain · '\x7d') then return none
  let low ← takeSome Char.isDigit start.rest.length
  let high ← if ← accept ',' then takeSome Char.isDigit start.rest.length else pure low
  if !(← accept '\x7d') then
    set start
    return none
  let least := valueIn 10 low
  let most := if high.isEmpty then none else some (valueIn 10 high)
  if maxRepeat ≤ least || most.any (maxRepeat ≤ ·) then throw (.hugeRepetition, none)
  if most.any (· < least) then
    refuse .reversedBounds ((← get).position - start.position)
  return some (least, most)

/-- A change of options inside a group. -/
structure FlagChange where
  on : List Char := []
  off : List Char := []

/-- The letters of the options. -/
def flagLetters : List Char := ['i', 'L', 'm', 's', 'x', 'a', 't', 'u']

/-- Turn one option on or off. -/
def Options.set (options : Options) (value : Bool) : Char → Options
  | 'i' => { options with ignoreCase := value }
  | 'm' => { options with multiline := value }
  | 's' => { options with dotAll := value }
  | 'x' => { options with spaced := value }
  | 'a' => { options with ascii := value }
  | 'u' => if value then { options with ascii := false } else options
  | _ => options

/-- The options after a change. -/
def FlagChange.apply (change : FlagChange) (options : Options) : Options :=
  change.off.foldl (Options.set · false) (change.on.foldl (Options.set · true) options)

/-- What follows the question mark of a group. -/
inductive GroupHead where
  | captured (name : Option String)
  | part (change : FlagChange)
  | atomic
  | ahead (negated : Bool)
  | behind (negated : Bool)
  | conditional (index : Nat)
  /-- A construct that is complete, with the expression it stands for. -/
  | complete (expr : Option Expr)

/-- Read the letters of options that are turned on, the first of them being
given.  The result holds the sign that ends them. -/
def flagsOn : Nat → Char → List Char → Reading (List Char × Char)
  | 0, c, on => return (on, c)
  | fuel + 1, c, on => do
      if c == 'L' then refuse (.badFlags "cannot use 'L' flag with a str pattern")
      let on := on ++ [c]
      if on.contains 'a' && on.contains 'u' then
        refuse (.badFlags "flags 'a', 'u' and 'L' are incompatible")
      match ← take with
      | none => refuse .missingFlagEnd
      | some sign =>
          if sign.isPlain ')' || sign.isPlain '-' || sign.isPlain ':' then
            return (on, sign.char)
          if sign.escaped || !flagLetters.contains sign.char then
            refuse
              (if !sign.escaped && Text.isLetter sign.char then .unknownFlag
                else .missingFlagEnd)
              sign.text.length
          flagsOn fuel sign.char on

/-- Read the letters of options that are turned off, up to the colon. -/
def flagsOff : Nat → List Char → Reading (List Char)
  | 0, off => return off
  | fuel + 1, off => do
      let ifOther : Problem := if off.isEmpty then .missingFlag else .missingColon
      match ← take with
      | none => refuse ifOther
      | some sign =>
          if !off.isEmpty && sign.isPlain ':' then return off
          if sign.escaped || !flagLetters.contains sign.char then
            refuse (if !sign.escaped && Text.isLetter sign.char then .unknownFlag else ifOther)
              sign.text.length
          if ['a', 'u', 'L'].contains sign.char then
            refuse (.badFlags "cannot turn off flags 'a', 'u' and 'L'")
          flagsOff fuel (off ++ [sign.char])

/-- Read the options of a group.  `atStart` tells whether options for the whole
pattern may be set here, and `start` is where the group opened. -/
def flags (c : Char) (atStart : Bool) (start : Nat) : Reading GroupHead := do
  let fuel := (← get).rest.length + 1
  let (on, stop) ← if c == '-' then pure ([], '-') else flagsOn fuel c []
  if stop == ')' then
    modify fun state =>
      { state with
        options := on.foldl (Options.set · true) state.options
        letters := state.letters ++ on }
    if !atStart then throw (.lateFlags, some start)
    return .complete none
  if on.contains 't' then refuse (.badFlags "cannot turn on global flag") 1
  let off ← if stop == '-' then flagsOff fuel [] else pure []
  if off.contains 't' then refuse (.badFlags "cannot turn off global flag") 1
  if on.any off.contains then refuse (.badFlags "flag turned on and off") 1
  return .part { on, off }

/-- Read a group name up to its terminator. -/
def groupName (terminator : Char) : Reading String := do
  let name ← nameUpTo terminator .noGroupName ((← get).rest.length + 1) []
  if !Text.isIdentifier name then
    refuse (.badGroupName (String.ofList name)) (name.length + 1)
  return String.ofList name

/-- The group of a name that is referred to. -/
def groupNamed (name : String) : Reading Nat := do
  match (← get).names.lookup name with
  | some index => return index
  | none => refuse (.unknownGroupName name) (name.length + 1)

/-- Pass over a comment.  The fuel bounds its length. -/
def comment (start : Nat) : Nat → Reading Unit
  | 0 => return
  | fuel + 1 => do
      if (← peek).isNone then throw (.openComment, some start)
      match ← take with
      | some sign => if sign.isPlain ')' then return else comment start fuel
      | none => return

/-- There are fewer groups than this. -/
def maxGroups : Nat := 2147483647

/-- The number of a group that a condition refers to by number. -/
def groupNumbered (name : String) : Reading Nat := do
  let back := name.length + 1
  match Text.readInteger name with
  | .ok (.ofNat 0) => refuse .badGroupNumber back
  | .ok (.ofNat index) =>
      if maxGroups ≤ index then refuse (.badReference index) back
      let position := (← get).position - back
      modify fun state => { state with references := state.references ++ [(index, position)] }
      return index
  | _ => refuse (.badGroupName name) back

/-- Read the group a condition refers to. -/
def conditionGroup : Reading Nat := do
  let name ← nameUpTo ')' .noGroupName ((← get).rest.length + 1) []
  let index ←
    if Text.isIdentifier name then groupNamed (String.ofList name)
    else groupNumbered (String.ofList name)
  checkBehind index
  return index

/-- Read the head of a group, after its question mark. -/
def groupHead (options : Options) (atStart : Bool) (start : Nat) : Reading GroupHead := do
  match ← take with
  | none => refuse .unexpectedEnd
  | some sign =>
      let unknown {α : Type} : Reading α :=
        refuse (.unknownExtension (String.ofList ('?' :: sign.text))) (sign.text.length + 1)
      if sign.escaped then unknown
      match sign.char with
      | 'P' =>
          if ← accept '<' then return .captured (some (← groupName '>'))
          else if ← accept '=' then
            let name ← groupName ')'
            let index ← groupNamed name
            return .complete (some (← reference options index (name.length + 1)))
          else
            match ← take with
            | none => refuse .unexpectedEnd
            | some other =>
                refuse (.unknownExtension (String.ofList ('?' :: 'P' :: other.text)))
                  (other.text.length + 2)
      | ':' => return .part {}
      | '#' =>
          comment start ((← get).rest.length + 1)
          return .complete none
      | '=' => return .ahead false
      | '!' => return .ahead true
      | '<' =>
          match ← take with
          | none => refuse .unexpectedEnd
          | some other =>
              if other.isPlain '=' then return .behind false
              else if other.isPlain '!' then return .behind true
              else
                refuse (.unknownExtension (String.ofList ('?' :: '<' :: other.text)))
                  (other.text.length + 2)
      | '(' => return .conditional (← conditionGroup)
      | '>' => return .atomic
      | c =>
          if c == '-' || flagLetters.contains c then flags c atStart start
          else unknown

/-- Open a group, and give its index. -/
def openGroup (name : Option String) : Reading Nat := do
  let state ← get
  let index := state.groups.length + 1
  match name with
  | none => pure ()
  | some name =>
      match state.names.lookup name with
      | some old => refuse (.repeatedGroupName name index old) (name.length + 1)
      | none => pure ()
  set { state with
    groups := state.groups ++ [none]
    names := state.names ++ (name.map fun name => (name, index)).toList }
  return index

/-- Close a group. -/
def closeGroup (index : Nat) (body : Expr) : Reading Unit :=
  modify fun state => { state with groups := state.groups.set (index - 1) (some body.width) }

/-- Expressions one after the other. -/
def sequence : List Expr → Expr
  | [] => .empty
  | [expr] => expr
  | expr :: rest => .seq expr (sequence rest)

/-- Read the sign that tells which number of repetitions is tried first. -/
def repetition : Reading Repetition := do
  if ← accept '?' then return .reluctant
  if ← accept '+' then return .possessive
  return .greedy

/-- Wrap the last expression in a repetition. -/
def repeatLast (start : Nat) (bounds : Bounds) (items : List Expr) : Reading (List Expr) := do
  let refuseHere {α : Type} (problem : Problem) : Reading α := throw (problem, some start)
  match items.getLast? with
  | none => refuseHere .nothingToRepeat
  | some (.anchor _ _) => refuseHere .nothingToRepeat
  | some (.repeated _ _ _ _) => refuseHere .repeatedRepetition
  | some item =>
      let kind ← repetition
      return items.dropLast ++ [.repeated bounds.1 bounds.2 kind item]

/-- Skip a comment of a spaced pattern. -/
def lineComment : Nat → Reading Unit
  | 0 => return
  | fuel + 1 => do
      match ← take with
      | none => return
      | some sign => if sign.isPlain '\n' then return else lineComment fuel

/-- Where in a pattern its parts are being read. -/
structure Scope where
  /-- The changes of options around the part, from the outermost. -/
  changes : List FlagChange := []
  /-- Options for the whole pattern may still be set. -/
  atStart : Bool := false

/-- The options in force in a scope. -/
def Scope.options (scope : Scope) : Reading Options := do
  return scope.changes.foldl (fun options change => change.apply options) (← get).options

/-- The closing parenthesis of a group that opened at `start`. -/
def closing (start : Nat) : Reading Unit := do
  if !(← accept ')') then throw (.openGroup, some start)

mutual

/-- Read alternatives.  The fuel bounds the number of signs. -/
def alternatives [CharNames] (fuel : Nat) (scope : Scope) : Reading Expr := do
  match fuel with
  | 0 => return .empty
  | fuel + 1 =>
      let first ← items fuel scope []
      if ← accept '|' then
        return .alt first (← alternatives fuel { scope with atStart := false })
      else return first

/-- Read expressions up to the end of their group or alternative. -/
def items [CharNames] (fuel : Nat) (scope : Scope) (before : List Expr) : Reading Expr := do
  match fuel with
  | 0 => return sequence before
  | fuel + 1 =>
      match ← peek with
      | none => return sequence before
      | some sign =>
          if sign.isPlain '|' || sign.isPlain ')' then return sequence before
          let start := (← get).position
          skip
          let options ← scope.options
          if sign.escaped then
            let item ← escape options sign.char
            items fuel scope (before ++ [item])
          else
            let c := sign.char
            if options.spaced && (c == ' ' || (9 ≤ c.toNat && c.toNat ≤ 13)) then
              items fuel scope before
            else if options.spaced && c == '#' then
              lineComment ((← get).rest.length + 1)
              items fuel scope before
            else
              match c with
              | '[' =>
                  let negated ← accept '^'
                  let members ← setItems start ((← get).rest.length + 1) []
                  items fuel scope (before ++ [.set options negated members])
              | '*' => items fuel scope (← repeatLast start (0, none) before)
              | '+' => items fuel scope (← repeatLast start (1, none) before)
              | '?' => items fuel scope (← repeatLast start (0, some 1) before)
              | '\x7b' =>
                  match ← bounds with
                  | none => items fuel scope (before ++ [.code options c.toNat])
                  | some limits => items fuel scope (← repeatLast start limits before)
              | '.' => items fuel scope (before ++ [.any options])
              | '^' =>
                  let anchor : Anchor := if options.multiline then .lineStart else .textStart
                  items fuel scope (before ++ [.anchor options anchor])
              | '$' =>
                  let anchor : Anchor := if options.multiline then .lineEnd else .lastLineEnd
                  items fuel scope (before ++ [.anchor options anchor])
              | '(' =>
                  let item ← group fuel scope options (scope.atStart && before.isEmpty) start
                  items fuel scope (before ++ item.toList)
              | _ => items fuel scope (before ++ [.code options c.toNat])

/-- Read a group after its opening parenthesis. -/
def group [CharNames] (fuel : Nat) (scope : Scope) (options : Options) (atStart : Bool)
    (start : Nat) : Reading (Option Expr) := do
  match fuel with
  | 0 => return none
  | fuel + 1 =>
      let inner : Scope := { scope with atStart := false }
      let head ← if ← accept '?' then groupHead options atStart start else pure (.captured none)
      match head with
      | .complete expr => return expr
      | .captured name =>
          let index ← openGroup name
          let body ← alternatives fuel inner
          closing start
          closeGroup index body
          return some (.group index body)
      | .part change =>
          let body ← alternatives fuel { inner with changes := inner.changes ++ [change] }
          closing start
          return some (.part body)
      | .atomic =>
          let body ← alternatives fuel inner
          closing start
          return some (.atomic body)
      | .ahead negated =>
          let body ← alternatives fuel inner
          closing start
          return some (.ahead negated body)
      | .behind negated =>
          let outer := (← get).behind
          modify fun state => { state with behind := outer.or (some state.groups.length) }
          let body ← alternatives fuel inner
          modify fun state => { state with behind := outer }
          closing start
          return some (.behind negated body)
      | .conditional index =>
          let first ← items fuel inner []
          let second ←
            if ← accept '|' then
              let second ← items fuel inner []
              if (← peek).any (Sign.isPlain · '|') then refuse .manyConditionalParts
              pure second
            else pure .empty
          closing start
          return some (.ifCaptured index first second)

end

/-- Read a whole pattern. -/
def whole [CharNames] (fuel : Nat) : Reading Expr := do
  checkDangling
  let expr ← alternatives fuel { atStart := true }
  let letters := (← get).letters
  if letters.contains 'a' && letters.contains 'u' then throw (.incompatibleFlags, none)
  if (← peek).isSome then refuse .strayParenthesis
  let state ← get
  match state.references.find? fun (index, _) => state.groups.length < index with
  | some (index, position) => throw (.badReference index, some position)
  | none => pure ()
  if !expr.fixedBehind then throw (.widthNotFixed, none)
  return expr

/-- Read a pattern. -/
def read [CharNames] (text : String) : Except Error Pattern :=
  let (rest, dangling) := signs text.toList
  match (whole (3 * rest.length + 3)).run { rest, dangling } with
  | .error (problem, position) => .error { pattern := text, problem, position }
  | .ok (expr, state) =>
      .ok { text, expr, groups := state.groups.length, names := state.names }

end Gherkin.Pattern
