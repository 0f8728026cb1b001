import Mathlib.Algebra.Order.SuccPred
import Mathlib.Data.Nat.SuccPred
import Mathlib.Data.Prod.Lex
import Mathlib.Order.Interval.Set.Monotone
import SexprCall.Proofs.Position.Count

/-! Places by rescanning. The row and the column of an offset can be counted from the beginning of the
text, without the positions on the way. They rise from offset to offset, so two places mark out the
same part of a text as their offsets. -/
namespace SexprCall

/-- A row and a column. Rows count first. -/
abbrev Place := Nat ×ₗ Nat

def Position.place (position : Position) : Place := toLex (position.row, position.col)

namespace Text

/-- One more than the line feeds in front, and one more than the characters after the last of them. -/
def place (text : Text) (offset : Nat) : Place :=
  toLex (1 + (text.take offset).count '\n', 1 + (lastLine (text.take offset)).length)

theorem place_lt_succ {text : Text} {offset : Nat} (within : offset < text.length) :
    text.place offset < text.place (offset + 1) := by
  have more : text.take (offset + 1) = text.take offset ++ [text[offset]] :=
    List.take_succ_eq_append_getElem within
  rw [place, place, more, List.count_append, length_lastLine_concat, Prod.Lex.toLex_lt_toLex]
  by_cases feed : text[offset] = '\n'
  · simp [feed]
  · simp [feed]

theorem strictMonoOn_place (text : Text) : StrictMonoOn text.place (Set.Iic text.length) :=
  strictMonoOn_Iic_of_lt_succ fun _ within => place_lt_succ within

theorem place_lt {text : Text} {offset other : Nat} (rises : offset < other)
    (within : other ≤ text.length) : text.place offset < text.place other :=
  text.strictMonoOn_place (Set.mem_Iic.2 (by omega)) (Set.mem_Iic.2 within) rises

theorem place_le_iff {text : Text} {offset other : Nat} (within : offset ≤ text.length)
    (within' : other ≤ text.length) : text.place offset ≤ text.place other ↔ offset ≤ other :=
  text.strictMonoOn_place.le_iff_le (Set.mem_Iic.2 within) (Set.mem_Iic.2 within')

theorem place_advance {text : Text} {offset : Nat} :
    (Position.start.advance (text.take offset)).place = text.place offset := by
  rw [Position.start_advance, Position.place, place, Nat.add_comm 1, Nat.add_comm 1]

def between (text : Text) (first last : Place) : Text :=
  (text.zipIdx.filter fun (_, offset) =>
    first ≤ text.place offset ∧ text.place offset ≤ last).map Prod.fst

/-- Of a text with two others around it, the offsets in its range are those of its characters. -/
theorem map_fst_filter_zipIdx (before middle after : Text) :
    ((before ++ (middle ++ after)).zipIdx.filter fun (_, offset) =>
      before.length ≤ offset ∧ offset < before.length + middle.length).map Prod.fst = middle := by
  let inside : Char × Nat → Bool := fun (_, offset) =>
    before.length ≤ offset ∧ offset < before.length + middle.length
  have outside (part : Text) (start : Nat)
      (apart : start + part.length ≤ before.length ∨ before.length + middle.length ≤ start) :
      (part.zipIdx start).filter inside = [] := by
    refine List.filter_eq_nil_iff.2 fun (c, offset) member => ?_
    have bounds := List.mem_zipIdx member
    simp only [inside, decide_eq_true_eq]
    omega
  have front : before.zipIdx.filter inside = [] := outside before 0 (.inl (by omega))
  have back : (after.zipIdx (before.length + middle.length)).filter inside = [] :=
    outside after _ (.inr (Nat.le_refl _))
  have all : (middle.zipIdx before.length).filter inside = middle.zipIdx before.length := by
    refine List.filter_eq_self.2 fun (c, offset) member => ?_
    have bounds := List.mem_zipIdx member
    simp only [inside, decide_eq_true_eq]
    omega
  change ((before ++ (middle ++ after)).zipIdx.filter inside).map Prod.fst = middle
  rw [List.zipIdx_append, List.zipIdx_append, List.filter_append, List.filter_append, Nat.zero_add,
    front, all, back, List.nil_append, List.append_nil, List.zipIdx_map_fst]

theorem take_append_slice {start stop : Nat} (rises : start ≤ stop) (text : Text) :
    text.take start ++ (text.slice start stop ++ text.drop stop) = text := by
  have rest : text.drop stop = (text.drop start).drop (stop - start) := by
    rw [List.drop_drop, Nat.add_sub_cancel' rises]
  rw [slice, rest, List.take_append_drop, List.take_append_drop]

/-- Scanning from the place of the first character of a part to that of its last finds the part. -/
theorem between_place {text : Text} {start stop : Nat} (rises : start < stop)
    (within : stop ≤ text.length) :
    text.between (text.place start) (text.place (stop - 1)) = text.slice start stop := by
  have same : text.zipIdx.filter (fun (_, offset) =>
        text.place start ≤ text.place offset ∧ text.place offset ≤ text.place (stop - 1)) =
      text.zipIdx.filter fun (_, offset) => start ≤ offset ∧ offset < stop := by
    refine List.filter_congr fun (c, offset) member => ?_
    have bounds := List.mem_zipIdx member
    rw [decide_eq_decide, place_le_iff (by omega) (by omega), place_le_iff (by omega) (by omega)]
    omega
  have parts := map_fst_filter_zipIdx (text.take start) (text.slice start stop) (text.drop stop)
  rw [take_append_slice (Nat.le_of_lt rises)] at parts
  have before : (text.take start).length = start := by rw [List.length_take]; omega
  have inside : start + (text.slice start stop).length = stop := by
    rw [slice, List.length_take, List.length_drop]
    omega
  rw [before, inside] at parts
  rw [between, same, parts]

end Text

namespace Span

def first (span : Span) : Place := toLex (span.startRow, span.startCol)

def last (span : Span) : Place := toLex (span.endRow, span.endCol)

/-- The span covers some of the text, from the place of the first character to that of the last. -/
structure Located (text : Text) (span : Span) : Prop where
  rises : span.start < span.stop
  within : span.stop ≤ text.length
  first : span.first = text.place span.start
  last : span.last = text.place (span.stop - 1)

namespace Located

variable {text : Text} {span other : Span}

theorem ordered (located : span.Located text) : span.first ≤ span.last := by
  have rises := located.rises
  have within := located.within
  rw [located.first, located.last, Text.place_le_iff (by omega) (by omega)]
  omega

/-! Offsets that rise make rows and columns rise. -/

theorem first_lt_first (located : span.Located text) (located' : other.Located text)
    (rises : span.start < other.start) : span.first < other.first := by
  have inside := located'.rises
  have within := located'.within
  rw [located.first, located'.first]
  exact Text.place_lt rises (by omega)

theorem last_lt_first (located : span.Located text) (located' : other.Located text)
    (apart : span.stop ≤ other.start) : span.last < other.first := by
  have inside := located.rises
  have inside' := located'.rises
  have within := located'.within
  rw [located.last, located'.first]
  exact Text.place_lt (by omega) (by omega)

theorem last_lt_last (located : span.Located text) (located' : other.Located text)
    (rises : span.stop < other.stop) : span.last < other.last := by
  have inside := located.rises
  have within := located'.within
  rw [located.last, located'.last]
  exact Text.place_lt (by omega) (by omega)

/-- Rows and columns mark out the text that the offsets cut. -/
theorem between (located : span.Located text) :
    text.between span.first span.last = span.text text := by
  rw [located.first, located.last, Text.between_place located.rises located.within, Span.text]

/-- A span of one character. -/
theorem single (located : span.Located text) {c : Char} (alone : span.text text = [c]) :
    span.stop = span.start + 1 ∧ text[span.start]? = some c := by
  have rises := located.rises
  have within := located.within
  have length := congrArg List.length alone
  rw [Span.text, Text.slice, List.length_take, List.length_drop, List.length_singleton] at length
  have stop : span.stop = span.start + 1 := by omega
  refine ⟨stop, ?_⟩
  have front : (span.text text).head? = some c := by
    rw [alone]
    rfl
  rwa [Span.text, Text.slice, stop, Nat.add_sub_cancel_left, List.head?_take, if_neg Nat.one_ne_zero,
    List.head?_drop] at front

theorem union (first : span.Located text) (second : other.Located text)
    (ordered : span.stop ≤ other.start) : (span.union other).Located text := by
  have rises := first.rises
  have rises' := second.rises
  exact ⟨by simp only [union_start, union_stop]; omega, second.within, first.first, second.last⟩

end Located
end Span
end SexprCall
