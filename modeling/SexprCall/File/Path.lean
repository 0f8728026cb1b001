import SexprCall.Text.Basic

/-! Paths in normal form: where they start and the names on the way. A slash separates names; empty
names and single dots say nothing and are left out, double dots stay. -/
namespace SexprCall

/-- Where a path starts. Exactly two leading slashes are a root of their own, any other number of
them is the root. -/
inductive Origin where
  | current
  | root
  | doubleRoot
  deriving DecidableEq, Repr

def Origin.slashes : Origin → Text
  | current => []
  | root => ['/']
  | doubleRoot => ['/', '/']

structure Path where
  origin : Origin
  names : List Text
  deriving DecidableEq, Repr

namespace Path

/-- The parts between slashes, empty ones included. -/
def segments : Text → List Text
  | [] => [[]]
  | c :: rest =>
    if c = '/' then [] :: segments rest else (segments rest).modifyHead (c :: ·)

def isName (segment : Text) : Bool := segment != [] && segment != ['.']

def parent : Text := ['.', '.']

def originOf (text : Text) : Origin :=
  match (text.takeWhile (· == '/')).length with
  | 0 => .current
  | 2 => .doubleRoot
  | _ => .root

def ofText (text : Text) : Path := ⟨originOf text, (segments text).filter isName⟩

def toText (path : Path) : Text :=
  if path.origin = .current ∧ path.names = [] then ['.']
  else path.origin.slashes ++ Text.joinWith ['/'] path.names

def lastName (path : Path) : Text := path.names.getLast?.getD []

/-- A name up to its last dot, if something stands on either side of that dot. -/
def stemOf (name : Text) : Text :=
  match name.reverse.dropWhile (· != '.') with
  | [] => name
  | _ :: front =>
    if front = [] ∨ name.getLast? = some '.' then name else front.reverse

def stem (path : Path) : Text := stemOf path.lastName

end Path
end SexprCall
