import SexprCall.Proofs.Cursor.Tiling

/-! Moving a source behind another text. Its positions move along: offsets and rows by those of the
place where it begins now, columns on its first row only. A row of zero is no row and stays. -/
namespace SexprCall

namespace Position

def shiftRow (origin : Position) (row : Nat) : Nat :=
  if row = 0 then 0 else row + (origin.row - 1)

def shiftCol (origin : Position) (row col : Nat) : Nat :=
  if row = 1 then col + (origin.col - 1) else col

def shift (origin position : Position) : Position :=
  ⟨position.offset + origin.offset, origin.shiftRow position.row,
    origin.shiftCol position.row position.col⟩

theorem next_row {position : Position} (c : Char) (row : 1 ≤ position.row) :
    1 ≤ (position.next c).row := by
  unfold next
  split
  · exact Nat.le_add_left 1 position.row
  · exact row

theorem advance_row {position : Position} (text : Text) (row : 1 ≤ position.row) :
    1 ≤ (position.advance text).row := by
  induction text generalizing position with
  | nil => exact row
  | cons c text ih => exact ih (next_row c row)

theorem advance_col {position : Position} (text : Text) (col : 1 ≤ position.col) :
    1 ≤ (position.advance text).col := by
  induction text generalizing position with
  | nil => exact col
  | cons c text ih =>
    apply ih
    unfold next
    split
    · exact Nat.le_refl 1
    · exact Nat.le_add_left 1 position.col

/-- A line feed ends the first row in both places, so columns after it do not move. -/
theorem shift_next (origin : Position) {position : Position} (c : Char)
    (row : 1 ≤ position.row) :
    origin.shift (position.next c) = (origin.shift position).next c := by
  have some : position.row ≠ 0 := Nat.one_le_iff_ne_zero.1 row
  by_cases feed : c = '\n'
  · simp [next, feed, shift, shiftRow, shiftCol, some]
    omega
  · by_cases first : position.row = 1
    · simp [next, feed, shift, shiftRow, shiftCol, first]
      omega
    · simp [next, feed, shift, shiftRow, shiftCol, first]
      omega

theorem shift_advance (origin : Position) {position : Position} (text : Text)
    (row : 1 ≤ position.row) :
    origin.shift (position.advance text) = (origin.shift position).advance text := by
  induction text generalizing position with
  | nil => rfl
  | cons c text ih =>
    rw [advance_cons, advance_cons, ih (next_row c row), shift_next origin c row]

theorem shift_start {origin : Position} (row : 1 ≤ origin.row) (col : 1 ≤ origin.col) :
    origin.shift start = origin := by
  have rows : 1 + (origin.row - 1) = origin.row := Nat.add_sub_cancel' row
  have cols : 1 + (origin.col - 1) = origin.col := Nat.add_sub_cancel' col
  simp [shift, start, shiftRow, shiftCol, rows, cols]

theorem shiftRow_inj {origin : Position} {row other : Nat}
    (same : origin.shiftRow row = origin.shiftRow other) : row = other := by
  unfold shiftRow at same
  split at same <;> split at same <;> omega

theorem shiftCol_inj {origin : Position} {row col other : Nat}
    (same : origin.shiftCol row col = origin.shiftCol row other) : col = other := by
  unfold shiftCol at same
  split at same <;> omega

theorem shift_inj {origin position other : Position}
    (same : origin.shift position = origin.shift other) : position = other := by
  obtain ⟨offset, row, col⟩ := position
  obtain ⟨offset', row', col'⟩ := other
  simp only [shift, mk.injEq, Nat.add_right_cancel_iff] at same
  obtain ⟨rfl, rows, cols⟩ := same
  obtain rfl := shiftRow_inj rows
  rw [shiftCol_inj cols]

end Position

def Span.startPosition (span : Span) : Position := ⟨span.start, span.startRow, span.startCol⟩

def Span.shift (origin : Position) (span : Span) : Span :=
  ⟨origin.shiftRow span.startRow, origin.shiftCol span.startRow span.startCol,
    origin.shiftRow span.endRow, origin.shiftCol span.endRow span.endCol,
    span.start + origin.offset, span.stop + origin.offset⟩

@[simp] theorem Span.shift_union (origin : Position) (first second : Span) :
    (first.union second).shift origin = (first.shift origin).union (second.shift origin) := rfl

theorem Span.shift_startPosition (origin : Position) (span : Span) :
    (span.shift origin).startPosition = origin.shift span.startPosition := rfl

theorem Span.shift_inj {origin : Position} {span other : Span}
    (same : span.shift origin = other.shift origin) : span = other := by
  obtain ⟨startRow, startCol, endRow, endCol, start, stop⟩ := span
  obtain ⟨startRow', startCol', endRow', endCol', start', stop'⟩ := other
  simp only [shift, Span.mk.injEq, Nat.add_right_cancel_iff] at same
  obtain ⟨startRows, startCols, endRows, endCols, rfl, rfl⟩ := same
  obtain rfl := Position.shiftRow_inj startRows
  obtain rfl := Position.shiftRow_inj endRows
  rw [Position.shiftCol_inj startCols, Position.shiftCol_inj endCols]

theorem Span.shift_ofText (origin : Position) {position : Position} (text : Text)
    (row : 1 ≤ position.row) :
    (Span.ofText position text).shift origin = .ofText (origin.shift position) text := by
  simp only [ofText, ← Position.shift_advance origin text.dropLast row]
  simp [shift, Position.shift, Nat.add_right_comm]

def Token.shift (origin : Position) (token : Token) : Token :=
  { token with span := token.span.shift origin }

@[simp] theorem Token.shift_kind (origin : Position) (token : Token) :
    (token.shift origin).kind = token.kind := rfl

@[simp] theorem Token.shift_span (origin : Position) (token : Token) :
    (token.shift origin).span = token.span.shift origin := rfl

theorem Token.shift_ofText (origin : Position) {position : Position} (kind : TokenKind)
    (text : Text) (row : 1 ≤ position.row) :
    (Token.ofText position kind text).shift origin = .ofText (origin.shift position) kind text := by
  simp [Token.shift, ofText, Span.shift_ofText origin text row]

theorem Token.shift_inj {origin : Position} {token other : Token}
    (same : token.shift origin = other.shift origin) : token = other := by
  obtain ⟨kind, span, length⟩ := token
  obtain ⟨kind', span', length'⟩ := other
  simp only [shift, Token.mk.injEq] at same
  obtain ⟨rfl, spans, rfl⟩ := same
  rw [Span.shift_inj spans]

theorem Token.shift_by_start (token : Token) : token.shift .start = token := by
  have row (row : Nat) : Position.start.shiftRow row = row := by
    by_cases zero : row = 0 <;> simp [Position.shiftRow, Position.start, zero]
  have col (row col : Nat) : Position.start.shiftCol row col = col := by
    by_cases first : row = 1 <;> simp [Position.shiftCol, Position.start, first]
  simp only [shift, Span.shift, row, col]
  rfl

theorem Token.shift_atEnd (origin position : Position) :
    (Token.atEnd position).shift origin = .atEnd (origin.shift position) := rfl

namespace Cursor

def shift (origin : Position) (cursor : Cursor) : Cursor :=
  ⟨cursor.rest, origin.shift cursor.position⟩

@[simp] theorem shift_rest (origin : Position) (cursor : Cursor) :
    (cursor.shift origin).rest = cursor.rest := rfl

theorem row_of_next? {cursor after : Cursor} {token : Token}
    (found : cursor.next? = some (token, after)) (row : 1 ≤ cursor.position.row) :
    1 ≤ after.position.row := by
  unfold next? at found
  split at found
  · simp at found
  · simp only [Option.some.injEq, Prod.mk.injEq] at found
    rw [← found.2]
    exact Position.advance_row _ row

/-- What comes next depends on the text alone, so its place moves along with the cursor's. -/
theorem shift_next? (origin : Position) {cursor : Cursor} (row : 1 ≤ cursor.position.row) :
    (cursor.shift origin).next? =
      cursor.next?.map fun (token, after) => (token.shift origin, after.shift origin) := by
  unfold next?
  cases rest : cursor.rest with
  | nil => simp [rest]
  | cons first others =>
    simp [rest, shift, Token.shift_ofText origin _ _ row, Position.shift_advance origin _ row]

theorem shift_next (origin : Position) {cursor : Cursor} (row : 1 ≤ cursor.position.row) :
    (cursor.shift origin).next = (cursor.next.1.shift origin, cursor.next.2.shift origin) := by
  rw [next, next, shift_next? origin row]
  cases cursor.next? with
  | none => rfl
  | some pair => rfl

/-- A cursor over a source is a cursor over what is left of it, moved. -/
theorem past_eq_shift (src : Text) (offset : Nat) :
    past src offset =
      (Cursor.ofText (src.drop offset)).shift (Position.start.advance (src.take offset)) := by
  have row : 1 ≤ (Position.start.advance (src.take offset)).row :=
    Position.advance_row _ (Nat.le_refl 1)
  have col : 1 ≤ (Position.start.advance (src.take offset)).col :=
    Position.advance_col _ (Nat.le_refl 1)
  rw [shift, ofText, Position.shift_start row col, past]

end Cursor
end SexprCall
