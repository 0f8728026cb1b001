import SexprCall.Proofs.Lexeme.Decomposition

/-! The tokens of a source tile it. A cursor over a source stands at an offset, the next token
begins there and the cursor moves on to its end. -/
namespace SexprCall

def Lexeme.ofToken (src : Text) (token : Token) : Lexeme := ⟨token.kind, token.text src⟩

namespace Cursor

/-- A fact of all cursors, from the used up ones back to the start of a source. -/
theorem induction_next {motive : Cursor → Prop}
    (used : ∀ cursor : Cursor, cursor.next? = none → motive cursor)
    (more : ∀ (cursor : Cursor) (token : Token) (after : Cursor),
      cursor.next? = some (token, after) → motive after → motive cursor)
    (cursor : Cursor) : motive cursor := by
  cases found : cursor.next? with
  | none => exact used cursor found
  | some pair =>
    have shorter : pair.2.rest.length < cursor.rest.length := rest_lt_of_next? found
    exact more cursor pair.1 pair.2 found (induction_next used more pair.2)
termination_by cursor.rest.length

theorem next_of_next?_none {cursor : Cursor} (used : cursor.next? = none) :
    cursor.next = (.atEnd cursor.position, cursor) := by
  simp [next, used]

theorem next_of_next? {cursor after : Cursor} {token : Token}
    (found : cursor.next? = some (token, after)) : cursor.next = (token, after) := by
  simp [next, found]

theorem tokens_of_next?_none {cursor : Cursor} (used : cursor.next? = none) :
    cursor.tokens = [] := by
  rw [tokens, drain_of_next?_none used]

theorem tokens_of_next? {cursor after : Cursor} {token : Token}
    (found : cursor.next? = some (token, after)) : cursor.tokens = token :: after.tokens := by
  rw [tokens, drain_of_next? found, tokens]

theorem kind_of_next? {cursor after : Cursor} {token : Token}
    (found : cursor.next? = some (token, after)) : token.kind ≠ .endOfInput := by
  unfold next? at found
  split at found
  · simp at found
  · simp only [Option.some.injEq, Prod.mk.injEq] at found
    rw [← found.1]
    exact Lexeme.scan_kind_ne_endOfInput _ _

/-- The cursor over a source that has passed its first characters. -/
def past (src : Text) (offset : Nat) : Cursor :=
  ⟨src.drop offset, Position.start.advance (src.take offset)⟩

@[simp] theorem past_zero (src : Text) : past src 0 = .ofText src := rfl

theorem past_next?_none {src : Text} {offset : Nat} (used : (past src offset).next? = none) :
    src.length ≤ offset := by
  simpa [past] using next?_eq_none.1 used

theorem past_position_offset {src : Text} {offset : Nat} (within : offset ≤ src.length) :
    (past src offset).position.offset = offset := by
  rw [past, Position.advance_offset, List.length_take, Nat.min_eq_left within]
  exact Nat.zero_add offset

/-- The cursor after the characters that come first. -/
theorem past_add {src text remaining : Text} {offset : Nat}
    (whole : text ++ remaining = src.drop offset) :
    past src (offset + text.length) = ⟨remaining, (past src offset).position.advance text⟩ := by
  have drop : src.drop (offset + text.length) = remaining := by
    rw [← List.drop_drop, ← whole, List.drop_left]
  have take : src.take (offset + text.length) = src.take offset ++ text := by
    rw [List.take_add, ← whole, List.take_left]
  simp only [past, drop, take, Position.advance_append]

theorem stop_ofText_past {src : Text} {offset : Nat} {kind : TokenKind} {text : Text}
    (within : offset ≤ src.length) :
    (Token.ofText (past src offset).position kind text).span.stop = offset + text.length := by
  simp only [Token.ofText, Span.ofText, past_position_offset within]

theorem text_ofText_past {src text remaining : Text} {offset : Nat} {kind : TokenKind}
    (scanned : kind ≠ .endOfInput) (within : offset ≤ src.length)
    (whole : text ++ remaining = src.drop offset) :
    (Token.ofText (past src offset).position kind text).text src = text := by
  simp only [Token.text, Token.ofText, scanned, if_false, Span.text, Span.ofText,
    past_position_offset within, Text.slice, Nat.add_sub_cancel_left, ← whole, List.take_left]

structure Step (src : Text) (offset : Nat) (token : Token) : Prop where
  start : token.span.start = offset
  rises : offset < token.span.stop
  stop : token.span.stop ≤ src.length
  text : token.text src ++ src.drop token.span.stop = src.drop offset
  fits : (Lexeme.ofToken src token).Fits (src.drop token.span.stop)

theorem Step.length {src : Text} {offset : Nat} {token : Token} (step : Step src offset token) :
    offset + (token.text src).length = token.span.stop := by
  have characters := congrArg List.length step.text
  have rises := step.rises
  have stop := step.stop
  rw [List.length_append, List.length_drop, List.length_drop] at characters
  omega

/-- The first lexeme of what is left makes a step. -/
theorem step_of_fits {src : Text} {offset : Nat} {lexeme : Lexeme} {remaining : Text}
    (fits : lexeme.Fits remaining) (within : offset ≤ src.length)
    (whole : lexeme.text ++ remaining = src.drop offset) :
    Step src offset (.ofText (past src offset).position lexeme.kind lexeme.text) := by
  let token : Token := .ofText (past src offset).position lexeme.kind lexeme.text
  have start : token.span.start = offset := past_position_offset within
  have stop : token.span.stop = offset + lexeme.text.length := stop_ofText_past within
  have text : token.text src = lexeme.text := text_ofText_past fits.kind_scanned.2 within whole
  have drop : src.drop token.span.stop = remaining := by
    rw [stop, ← List.drop_drop, ← whole, List.drop_left]
  have characters := List.length_pos_iff.2 fits.text_ne_nil
  have length := congrArg List.length whole
  rw [List.length_append, List.length_drop] at length
  refine ⟨start, ?_, ?_, ?_, ?_⟩
  · rw [stop]
    omega
  · rw [stop]
    omega
  · rw [text, drop, whole]
  · rw [drop, Lexeme.ofToken, text]
    exact fits

/-- The cursor goes on at the end of the token. -/
theorem step_of_next? {src : Text} {offset : Nat} {token : Token} {after : Cursor}
    (found : (past src offset).next? = some (token, after)) :
    Step src offset token ∧ after = past src token.span.stop := by
  unfold next? at found
  split at found
  · simp at found
  rename_i first rest left
  have left : src.drop offset = first :: rest := left
  have within : offset ≤ src.length := by
    have characters : (src.drop offset).length ≠ 0 := by simp [left]
    rw [List.length_drop] at characters
    omega
  have whole := Lexeme.scan_append first rest
  have fits := Lexeme.scan_fits first rest
  rw [← left] at whole
  generalize Lexeme.scan first rest = scanned at found whole fits
  obtain ⟨lexeme, remaining⟩ := scanned
  obtain ⟨rfl, rfl⟩ := Prod.mk.inj (Option.some.inj found)
  refine ⟨step_of_fits fits within whole, ?_⟩
  rw [stop_ofText_past within, past_add whole]

theorem next?_past {src : Text} {offset : Nat} (more : offset < src.length) :
    ∃ token, (past src offset).next? = some (token, past src token.span.stop) ∧
      Step src offset token := by
  cases found : (past src offset).next? with
  | none =>
    have used := past_next?_none found
    omega
  | some pair =>
    obtain ⟨token, after⟩ := pair
    obtain ⟨step, rfl⟩ := step_of_next? found
    exact ⟨token, rfl, step⟩

theorem next?_past_length (src : Text) : (past src src.length).next? = none :=
  next?_eq_none.2 (by simp [past])

/-- A fact of all offsets of a source that is carried back from the end of each token to its
start. -/
theorem past_induction {src : Text} {motive : (offset : Nat) → offset ≤ src.length → Prop}
    (used : motive src.length (Nat.le_refl _))
    (more : ∀ offset token (within : offset ≤ src.length) (step : Step src offset token),
      (past src offset).next? = some (token, past src token.span.stop) →
      motive token.span.stop step.stop → motive offset within)
    (offset : Nat) (within : offset ≤ src.length) : motive offset within := by
  rcases Nat.eq_or_lt_of_le within with rfl | left
  · exact used
  · obtain ⟨token, found, step⟩ := next?_past left
    have rises := step.rises
    exact more offset token within step found (past_induction used more _ step.stop)
termination_by src.length - offset

theorem tokens_past_length (src : Text) : (past src src.length).tokens = [] :=
  tokens_of_next?_none (next?_past_length src)

/-- Without their places, the tokens left are the lexemes of the text left. -/
theorem map_tokens_past {src : Text} {offset : Nat} (within : offset ≤ src.length) :
    (past src offset).tokens.map (Lexeme.ofToken src) = Lexeme.ofText (src.drop offset) := by
  induction offset, within using past_induction with
  | used => simp [tokens_past_length]
  | more offset token within step found ih =>
    have split := Lexeme.ofText_append step.fits
    have text : (Lexeme.ofToken src token).text ++ src.drop token.span.stop = src.drop offset :=
      step.text
    rw [text] at split
    rw [tokens_of_next? found, split, List.map_cons, ih]

theorem map_tokenize (src : Text) :
    (tokenize src).map (Lexeme.ofToken src) = Lexeme.ofText src := by
  simpa [tokenize] using map_tokens_past (Nat.zero_le src.length)

end Cursor

/-- Each token fits what the later ones make up. -/
theorem fits_of_tokenize {src : Text} {before after : List Token} {token : Token}
    (split : tokenize src = before ++ token :: after) :
    (Lexeme.ofToken src token).Fits (after.flatMap (Token.text src)) := by
  have lexemes := Cursor.map_tokenize src
  rw [split, List.map_append, List.map_cons] at lexemes
  have fits := Lexeme.fits_of_split lexemes.symm
  rwa [List.flatMap_map] at fits

theorem exists_fits_of_mem_tokenize {src : Text} {token : Token} (member : token ∈ tokenize src) :
    ∃ after, (Lexeme.ofToken src token).Fits after := by
  obtain ⟨before, after, split⟩ := List.append_of_mem member
  exact ⟨_, fits_of_tokenize split⟩

theorem kind_of_mem_tokenize {src : Text} {token : Token} (member : token ∈ tokenize src) :
    token.kind ≠ .dummy ∧ token.kind ≠ .endOfInput := by
  obtain ⟨after, fits⟩ := exists_fits_of_mem_tokenize member
  exact fits.kind_scanned

/-- The text of a token has a character at least. -/
theorem text_ne_nil_of_mem_tokenize {src : Text} {token : Token} (member : token ∈ tokenize src) :
    token.text src ≠ [] := by
  obtain ⟨after, fits⟩ := exists_fits_of_mem_tokenize member
  exact fits.text_ne_nil

def endToken (src : Text) : Token := .atEnd (Position.start.advance src)

theorem atEnd_past_length (src : Text) :
    Token.atEnd (Cursor.past src src.length).position = endToken src := by
  simp [Cursor.past, endToken]

end SexprCall
