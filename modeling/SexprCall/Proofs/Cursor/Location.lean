import SexprCall.Proofs.Cursor.Tiling
import SexprCall.Proofs.Position.Rescan

/-! Where tokens are. The tokens left cover the offsets left, without a gap or an overlap, and each of
them has the places that a rescan of the source gives to its first and last character. -/
namespace SexprCall

/-- Tokens that cover a range of offsets, each from where the one before it stops. -/
def Tiles : Nat → List Token → Nat → Prop
  | start, [], stop => start = stop
  | start, token :: tokens, stop =>
    token.span.start = start ∧ start < token.span.stop ∧ Tiles token.span.stop tokens stop

namespace Tiles

variable {start stop : Nat} {tokens : List Token}

theorem append_iff {left right : List Token} :
    Tiles start (left ++ right) stop ↔
      ∃ middle, Tiles start left middle ∧ Tiles middle right stop := by
  induction left generalizing start with
  | nil => simp [Tiles]
  | cons token left ih => simp [Tiles, ih, and_assoc]

theorem le (tiles : Tiles start tokens stop) : start ≤ stop := by
  induction tokens generalizing start with
  | nil => exact Nat.le_of_eq tiles
  | cons token tokens ih => exact Nat.le_trans (Nat.le_of_lt tiles.2.1) (ih tiles.2.2)

/-- A token in the range begins no earlier than the range. -/
theorem start_le (tiles : Tiles start tokens stop) {token : Token} (member : token ∈ tokens) :
    start ≤ token.span.start := by
  induction tokens generalizing start with
  | nil => cases member
  | cons other tokens ih =>
    obtain ⟨rfl, rises, rest⟩ := tiles
    rcases List.mem_cons.1 member with rfl | later
    · exact Nat.le_refl _
    · exact Nat.le_trans (Nat.le_of_lt rises) (ih rest later)

theorem nodup (tiles : Tiles start tokens stop) : tokens.Nodup := by
  induction tokens generalizing start with
  | nil => exact List.nodup_nil
  | cons token tokens ih =>
    obtain ⟨rfl, rises, rest⟩ := tiles
    refine List.nodup_cons.2 ⟨fun member => ?_, ih rest⟩
    exact absurd (rest.start_le member) (Nat.not_le.2 rises)

end Tiles

namespace Cursor

theorem place_past (src : Text) (offset : Nat) :
    (past src offset).position.place = src.place offset :=
  Text.place_advance

/-- A span that is built where the cursor stands agrees with a rescan. -/
theorem located_ofText {src text remaining : Text} {offset : Nat} (nonempty : text ≠ [])
    (whole : text ++ remaining = src.drop offset) (within : offset ≤ src.length) :
    (Span.ofText (past src offset).position text).Located src := by
  have characters := List.length_pos_iff.2 nonempty
  have length := congrArg List.length whole
  rw [List.length_append, List.length_drop] at length
  have start : (past src offset).position.offset = offset := past_position_offset within
  -- Where a scan would stand right before the last character; this is the end that a span records.
  have last : past src (offset + (text.length - 1)) =
      ⟨text.getLast nonempty :: remaining, (past src offset).position.advance text.dropLast⟩ := by
    have split : text.dropLast ++ text.getLast nonempty :: remaining = src.drop offset := by
      rw [List.append_cons, List.dropLast_concat_getLast, whole]
    rw [← List.length_dropLast, past_add split]
  refine ⟨?_, ?_, ?_, ?_⟩
  · simp only [Span.ofText, start]
    omega
  · simp only [Span.ofText, start]
    omega
  · simp only [Span.ofText, start, Span.first]
    exact place_past src offset
  · have place := place_past src (offset + (text.length - 1))
    rw [last] at place
    simp only [Span.ofText, start, Span.last, Nat.add_sub_assoc characters]
    exact place

theorem located_of_next? {src : Text} {offset : Nat} {token : Token} {after : Cursor}
    (found : (past src offset).next? = some (token, after)) : token.span.Located src := by
  have within : offset ≤ src.length := by
    have step := (step_of_next? found).1
    exact Nat.le_trans (Nat.le_of_lt step.rises) step.stop
  unfold next? at found
  split at found
  · simp at found
  rename_i first rest left
  obtain ⟨rfl, -⟩ := Prod.mk.inj (Option.some.inj found)
  have whole : (Lexeme.scan first rest).1.text ++ (Lexeme.scan first rest).2 = src.drop offset :=
    (Lexeme.scan_append first rest).trans left.symm
  exact located_ofText (Lexeme.scan_text_ne_nil first rest) whole within

/-- From an offset to the end of the source. -/
theorem tiles_past {src : Text} {offset : Nat} (within : offset ≤ src.length) :
    Tiles offset (past src offset).tokens src.length := by
  induction offset, within using past_induction with
  | used =>
    rw [tokens_past_length]
    rfl
  | more offset token within step found ih =>
    rw [tokens_of_next? found]
    exact ⟨step.start, step.rises, ih⟩

theorem located_of_mem_tokens {src : Text} {offset : Nat} (within : offset ≤ src.length) :
    ∀ token ∈ (past src offset).tokens, token.span.Located src := by
  induction offset, within using past_induction with
  | used => simp [tokens_past_length]
  | more offset token within step found ih =>
    rw [tokens_of_next? found, List.forall_mem_cons]
    exact ⟨located_of_next? found, ih⟩

end Cursor

theorem tiles_tokenize (src : Text) : Tiles 0 (tokenize src) src.length :=
  Cursor.tiles_past (Nat.zero_le _)

theorem located_of_mem_tokenize {src : Text} {token : Token} (member : token ∈ tokenize src) :
    token.span.Located src :=
  Cursor.located_of_mem_tokens (Nat.zero_le _) token member

end SexprCall
