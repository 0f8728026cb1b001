import SexprCall.Cursor
import SexprCall.Reader.OpenForm

/-! Readers build syntax trees from the tokens of a cursor, one node outside of all forms at a
call. -/
namespace SexprCall

structure Reader where
  cursor : Cursor
  opened : List OpenForm

/-- One call on a reader: the tokens it used up, the node it completed unless the source had ended,
and the reader after it. -/
structure Pull where
  tokens : List Token
  outcome : Except ReadError (Option Node)
  reader : Reader

namespace Reader

def ofText (src : Text) : Reader := ⟨.ofText src, []⟩

def depth (reader : Reader) : Nat := reader.opened.length

/-- Takes tokens until a node outside of all forms is complete or a token cannot be taken. Either
way no form is open afterwards, and reading can go on after the last token. -/
def pull (reader : Reader) : Pull :=
  match _ : reader.cursor.next? with
  | none =>
    ⟨[], Progress.finish reader.opened (.atEnd reader.cursor.position), ⟨reader.cursor, []⟩⟩
  | some (token, after) =>
    match Progress.take reader.opened token with
    | .error error => ⟨[token], .error error, ⟨after, []⟩⟩
    | .ok (.complete node) => ⟨[token], .ok (some node), ⟨after, []⟩⟩
    | .ok (.going opened) =>
      let later := pull ⟨after, opened⟩
      { later with tokens := token :: later.tokens }
termination_by reader.cursor.rest.length
decreasing_by exact Cursor.rest_lt_of_next? ‹_›

@[simp] theorem depth_pull (reader : Reader) : reader.pull.reader.depth = 0 := by
  unfold depth
  fun_induction pull reader with
  | case1 | case2 | case3 => rfl
  | case4 _ _ _ _ _ _ _ ih => exact ih

theorem pull_rest_le (reader : Reader) :
    reader.pull.reader.cursor.rest.length ≤ reader.cursor.rest.length := by
  fun_induction pull reader with
  | case1 => simp
  | case2 reader token after found | case3 reader token after found =>
    exact Nat.le_of_lt (Cursor.rest_lt_of_next? found)
  | case4 reader token after found opened _ later ih =>
    have shorter := Cursor.rest_lt_of_next? found
    exact Nat.le_trans ih (Nat.le_of_lt shorter)

/-- A call uses up a token unless the source has ended. -/
theorem pull_rest_lt {reader : Reader} (more : reader.cursor.rest ≠ []) :
    reader.pull.reader.cursor.rest.length < reader.cursor.rest.length := by
  cases found : reader.cursor.next? with
  | none => exact absurd (Cursor.next?_eq_none.1 found) more
  | some pair =>
    have shorter : pair.2.rest.length < reader.cursor.rest.length := Cursor.rest_lt_of_next? found
    rw [pull]
    split <;> rename_i same
    · simp [found] at same
    · rename_i token after
      obtain rfl : pair = (token, after) := by simpa [found] using same
      split
      · exact shorter
      · exact shorter
      · exact Nat.lt_of_le_of_lt (pull_rest_le _) shorter

theorem pull_of_rest_nil {reader : Reader} (used : reader.cursor.rest = []) :
    reader.pull =
      ⟨[], Progress.finish reader.opened (.atEnd reader.cursor.position), ⟨reader.cursor, []⟩⟩ := by
  have none := Cursor.next?_eq_none.2 used
  rw [pull]
  split <;> simp_all

theorem pull_node_rest_lt {reader : Reader} {node : Node}
    (complete : reader.pull.outcome = .ok (some node)) :
    reader.pull.reader.cursor.rest.length < reader.cursor.rest.length := by
  apply pull_rest_lt
  intro used
  rw [pull_of_rest_nil used] at complete
  unfold Progress.finish at complete
  split at complete <;> simp at complete

/-- The next node outside of all forms; past the last one, the end of input. -/
def next (reader : Reader) : Except ReadError Node × Reader :=
  (reader.pull.outcome.map (·.getD .endOfInput), reader.pull.reader)

end Reader

end SexprCall
