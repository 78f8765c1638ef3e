import Gherkin.Text.Lines
import Gherkin.Text.Search

/-!
# Paths as texts

A path is a text of names between slashes.  Exactly two slashes at the front
are kept apart from one; any other number of them counts as one.
-/

namespace Gherkin.Path

/-- The slashes a path starts with, reduced to none, one or two. -/
def rootOf : List Char → List Char
  | '/' :: '/' :: '/' :: _ => ['/']
  | '/' :: '/' :: _ => ['/', '/']
  | '/' :: _ => ['/']
  | _ => []

/-- The names of a path; empty names and single dots say nothing. -/
def names (path : List Char) : List (List Char) :=
  (Text.splitAt '/' path).filter fun name => !name.isEmpty && name != ['.']

/-- Put a path together from its root and its names. -/
def ofNames (root : List Char) (names : List (List Char)) : List Char :=
  match root ++ Text.join ['/'] names with
  | [] => ['.']
  | path => path

/-- A path without what says nothing. -/
def clean (path : List Char) : List Char :=
  ofNames (rootOf path) (names path)

/-- Follow one name; two dots lead back unless there is nowhere to go back
to. -/
def follow (absolute : Bool) (before : List (List Char)) (name : List Char) :
    List (List Char) :=
  if name = ['.', '.'] then
    match before.getLast? with
    | none => if absolute then before else before ++ [name]
    | some last => if last = ['.', '.'] then before ++ [name] else before.dropLast
  else before ++ [name]

/-- A path with its double dots followed, as far as the text allows. -/
def normalize (path : List Char) : List Char :=
  let root := rootOf path
  ofNames root ((names path).foldl (follow (!root.isEmpty)) [])

/-- A path seen from another: an absolute path stays as it is. -/
def append (base path : List Char) : List Char :=
  match path, base.getLast? with
  | '/' :: _, _ => path
  | _, none => path
  | _, some '/' => base ++ path
  | _, some _ => base ++ '/' :: path

/-- The normal form of a path seen from another. -/
def resolve (base path : String) : String :=
  String.ofList (normalize (append base.toList path.toList))

/-- The path that holds another: what is left without the last name. -/
def parent (path : String) : String :=
  let cs := path.toList
  String.ofList (ofNames (rootOf cs) (names cs).dropLast)

/-- A path in its clean form. -/
def cleanText (path : String) : String :=
  String.ofList (clean path.toList)

end Gherkin.Path
