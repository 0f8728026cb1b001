import SexprCall.Cursor

/-! Families of cursors: cursors with numbers, made from the first by cloning. -/
namespace SexprCall.Cursor

structure Family where
  cursors : List Cursor
  deriving Repr

namespace Family

inductive Request where
  | next
  | clone
  | take (count : Nat)
  | rest
  deriving Repr

inductive Reply where
  | token (token : Token)
  /-- The number of the new cursor. -/
  | cloned (number : Nat)
  | tokens (tokens : List Token)
  deriving Repr

def ofText (src : Text) : Family := ⟨[.ofText src]⟩

def move (family : Family) (number : Nat) (cursor : Cursor) : Family :=
  ⟨family.cursors.set number cursor⟩

def ask (family : Family) (number : Nat) (request : Request) : Option (Reply × Family) :=
  family.cursors[number]?.map fun cursor =>
    match request with
    | .next => (.token cursor.next.1, family.move number cursor.next.2)
    | .clone => (.cloned family.cursors.length, ⟨family.cursors ++ [cursor]⟩)
    | .take count => (.tokens (cursor.take count).1, family.move number (cursor.take count).2)
    | .rest => (.tokens cursor.drain.1, family.move number cursor.drain.2)

end Family
end SexprCall.Cursor
