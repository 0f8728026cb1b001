import SexprCall.Text.Basic

/-! Positions in a source and the spans of its parts. Rows and columns count from one, offsets
from zero; a line feed ends a row. -/
namespace SexprCall

structure Position where
  offset : Nat
  row : Nat
  col : Nat
  deriving DecidableEq, Repr

namespace Position

def start : Position := ⟨0, 1, 1⟩

def next (position : Position) (c : Char) : Position :=
  if c = '\n' then ⟨position.offset + 1, position.row + 1, 1⟩
  else ⟨position.offset + 1, position.row, position.col + 1⟩

def advance (position : Position) (text : Text) : Position := text.foldl next position

@[simp] theorem advance_nil (position : Position) : position.advance [] = position := rfl

@[simp] theorem advance_cons (position : Position) (c : Char) (text : Text) :
    position.advance (c :: text) = (position.next c).advance text := rfl

@[simp] theorem advance_append (position : Position) (left right : Text) :
    position.advance (left ++ right) = (position.advance left).advance right := by
  simp [advance]

@[simp] theorem next_offset (position : Position) (c : Char) :
    (position.next c).offset = position.offset + 1 := by
  unfold next; split <;> rfl

@[simp] theorem advance_offset (position : Position) (text : Text) :
    (position.advance text).offset = position.offset + text.length := by
  induction text generalizing position with
  | nil => rfl
  | cons c text ih => simp [ih]; omega

end Position

/-- Rows and columns of the first and the last character, and half-open offsets. The span that is
zero throughout stands for no part of the source. -/
structure Span where
  startRow : Nat := 0
  startCol : Nat := 0
  endRow : Nat := 0
  endCol : Nat := 0
  start : Nat := 0
  stop : Nat := 0
  deriving DecidableEq, Repr

namespace Span

def ofText (position : Position) (text : Text) : Span :=
  let last := position.advance text.dropLast
  ⟨position.row, position.col, last.row, last.col, position.offset, position.offset + text.length⟩

/-- From the start of the first to the end of the second. -/
def union (first second : Span) : Span :=
  ⟨first.startRow, first.startCol, second.endRow, second.endCol, first.start, second.stop⟩

def isEmpty (span : Span) : Bool := span.startRow = 0

def text (src : Text) (span : Span) : Text := src.slice span.start span.stop

def corners (span : Span) : Text :=
  Text.twoDigits span.startRow ++ ", ".toList ++ Text.twoDigits span.startCol ++ " => ".toList ++
    Text.twoDigits span.endRow ++ ", ".toList ++ Text.twoDigits span.endCol ++ ": ".toList

@[simp] theorem union_start (first second : Span) : (first.union second).start = first.start := rfl
@[simp] theorem union_stop (first second : Span) : (first.union second).stop = second.stop := rfl

end Span
end SexprCall
