import SexprCall.Position

/-! Positions count characters. The row after a text is one more than its line feeds, the column one
more than what follows the last of them. -/
namespace SexprCall

def Text.lastLine (text : Text) : Text := (text.reverse.takeWhile (· != '\n')).reverse

theorem Text.length_lastLine_concat (text : Text) (c : Char) :
    (lastLine (text ++ [c])).length = if c = '\n' then 0 else (lastLine text).length + 1 := by
  by_cases feed : c = '\n' <;> simp [lastLine, feed]

theorem Position.start_advance (text : Text) :
    start.advance text = ⟨text.length, text.count '\n' + 1, text.lastLine.length + 1⟩ := by
  obtain ⟨behind, rfl⟩ : ∃ behind : Text, text = behind.reverse := ⟨text.reverse, by simp⟩
  induction behind with
  | nil => rfl
  | cons c behind ih =>
    rw [List.reverse_cons, advance_append, ih, advance_cons, advance_nil, next,
      Text.length_lastLine_concat, List.count_append]
    by_cases feed : c = '\n' <;> simp [feed]

end SexprCall
