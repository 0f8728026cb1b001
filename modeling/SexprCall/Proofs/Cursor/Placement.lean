import SexprCall.Proofs.Lexeme.Chain
import SexprCall.Proofs.Position.Shift

/-! The tokens of a source are its lexemes, each placed where the earlier ones lead to. So tokens of
texts that are put together follow from the lexemes of the parts. -/
namespace SexprCall

namespace Lexeme

def place (position : Position) : List Lexeme → List Token
  | [] => []
  | lexeme :: later =>
    .ofText position lexeme.kind lexeme.text :: place (position.advance lexeme.text) later

theorem place_append (position : Position) (first second : List Lexeme) :
    place position (first ++ second) =
      place position first ++ place (position.advance (first.flatMap text)) second := by
  induction first generalizing position with
  | nil => rfl
  | cons lexeme first ih => simp [place, ih]

theorem place_shift (origin : Position) {position : Position} (row : 1 ≤ position.row)
    (lexemes : List Lexeme) :
    place (origin.shift position) lexemes = (place position lexemes).map (Token.shift origin) := by
  induction lexemes generalizing position with
  | nil => rfl
  | cons lexeme later ih =>
    rw [place, place, List.map_cons, Token.shift_ofText origin _ _ row,
      ← Position.shift_advance origin _ row, ih (Position.advance_row _ row)]

theorem map_kind_place (position : Position) (lexemes : List Lexeme) :
    (place position lexemes).map Token.kind = lexemes.map kind := by
  induction lexemes generalizing position with
  | nil => rfl
  | cons lexeme later ih =>
    rw [place, List.map_cons, List.map_cons, ih]
    rfl

/-- A part of placed tokens is the part of the lexemes, placed behind what comes before it. -/
theorem exists_of_place_eq_append {position : Position} {lexemes : List Lexeme}
    {first second : List Token} (same : place position lexemes = first ++ second) :
    ∃ left right, lexemes = left ++ right ∧ place position left = first ∧
      place (position.advance (left.flatMap text)) right = second := by
  induction first generalizing position lexemes with
  | nil => exact ⟨[], lexemes, rfl, rfl, same⟩
  | cons token first ih =>
    cases lexemes with
    | nil => simp [place] at same
    | cons lexeme later =>
      obtain ⟨rfl, rest⟩ := List.cons.inj same
      obtain ⟨left, right, rfl, rfl, placed⟩ := ih rest
      refine ⟨lexeme :: left, right, rfl, rfl, ?_⟩
      rwa [List.flatMap_cons, Position.advance_append]

/-- Placed tokens keep their kinds, and in a source that has the texts in their place they keep
these, too. -/
theorem map_ofToken_place {src before after : Text} {position : Position} {lexemes : List Lexeme}
    (whole : src = before ++ (lexemes.flatMap text ++ after))
    (offset : position.offset = before.length)
    (scanned : ∀ lexeme ∈ lexemes, lexeme.kind ≠ .endOfInput) :
    (place position lexemes).map (ofToken src) = lexemes := by
  induction lexemes generalizing position before with
  | nil => rfl
  | cons lexeme later ih =>
    rw [List.forall_mem_cons] at scanned
    rw [List.flatMap_cons, List.append_assoc] at whole
    have here : (Token.ofText position lexeme.kind lexeme.text).text src = lexeme.text := by
      simp only [Token.text, Token.ofText, scanned.1, if_false, Span.text, Span.ofText, offset]
      rw [whole]
      exact Text.slice_length before lexeme.text _
    have beyond : (position.advance lexeme.text).offset = (before ++ lexeme.text).length := by
      simp [offset]
    have rest := ih (by rw [whole, List.append_assoc]) beyond scanned.2
    rw [place, List.map_cons, rest, ofToken, here]
    rfl

end Lexeme

open Lexeme

theorem Cursor.tokens_eq_place (cursor : Cursor) :
    cursor.tokens = place cursor.position (Lexeme.ofText cursor.rest) := by
  induction cursor using induction_next with
  | used cursor used =>
    rw [tokens_of_next?_none used, next?_eq_none.1 used, Lexeme.ofText_nil]
    rfl
  | more cursor token after found ih =>
    rw [tokens_of_next? found, ih]
    unfold next? at found
    split at found
    · simp at found
    rename_i first rest left
    simp only [Option.some.injEq, Prod.mk.injEq] at found
    obtain ⟨rfl, rfl⟩ := found
    rw [left, Lexeme.ofText]
    rfl

theorem tokenize_eq_place (src : Text) : tokenize src = place .start (ofText src) :=
  Cursor.tokens_eq_place _

/-- Lexemes behind a text are tokens that are moved by its length. -/
theorem place_advance_start (before : Text) (lexemes : List Lexeme) :
    place (Position.start.advance before) lexemes =
      (place .start lexemes).map (Token.shift (Position.start.advance before)) := by
  have row : 1 ≤ Position.start.row := Nat.le_refl 1
  have col : 1 ≤ Position.start.col := Nat.le_refl 1
  rw [← place_shift _ row,
    Position.shift_start (Position.advance_row before row) (Position.advance_col before col)]

/-- In a longer text, tokens that are moved along have the kinds and texts that they had. -/
theorem map_ofToken_shift_within (before : Text) {middle : Text} (after : Text) {tokens : List Token}
    (among : tokens ⊆ tokenize middle) :
    (tokens.map (Token.shift (Position.start.advance before))).map
      (ofToken (before ++ (middle ++ after))) = tokens.map (ofToken middle) := by
  have scanned : ∀ lexeme ∈ ofText middle, lexeme.kind ≠ .endOfInput := by
    intro lexeme member
    rw [← Cursor.map_tokenize] at member
    obtain ⟨token, found, rfl⟩ := List.mem_map.1 member
    exact (kind_of_mem_tokenize found).2
  have whole : before ++ (middle ++ after) =
      before ++ ((ofText middle).flatMap Lexeme.text ++ after) := by rw [flatMap_ofText]
  have offset : (Position.start.advance before).offset = before.length := by simp [Position.start]
  have placed := map_ofToken_place whole offset scanned
  rw [place_advance_start, ← tokenize_eq_place, ← Cursor.map_tokenize, List.map_map] at placed
  rw [List.map_map]
  apply List.map_congr_left
  intro token member
  exact List.map_inj_left.1 placed token (among member)

/-- Where the lexemes of a text end as before, more text only adds tokens. -/
theorem tokenize_append {a b : Text} (chain : Chain (ofText a) b) :
    tokenize (a ++ b) = tokenize a ++ (tokenize b).map (Token.shift (Position.start.advance a)) := by
  have lexemes : ofText (a ++ b) = ofText a ++ ofText b := by
    have split := chain.ofText_append
    rwa [flatMap_ofText] at split
  simp only [tokenize_eq_place, lexemes, place_append, flatMap_ofText, place_advance_start]

/-- Tokens that stand in a row in a source, the last of which cannot go on, are the tokens of the text
they cover, moved to where that text stands. -/
theorem exists_tokenize_part {src : Text} {before inside after : List Token} {first last : Token}
    (split : tokenize src = before ++ (first :: (inside ++ [last]) ++ after))
    (fixed : last.kind ∉ growingKinds) :
    ∃ left part right, src = left ++ (part ++ right) ∧
      Position.start.advance left = first.span.startPosition ∧
      last.span.stop = left.length + part.length ∧
      first :: (inside ++ [last]) = (tokenize part).map (Token.shift (Position.start.advance left)) := by
  rw [tokenize_eq_place] at split
  obtain ⟨leftLexemes, lexemes, whole, -, placed⟩ := exists_of_place_eq_append split
  obtain ⟨middle, rightLexemes, rfl, row, -⟩ := exists_of_place_eq_append placed
  rw [← List.cons_append] at row
  obtain ⟨front, back, rfl, placedFront, placedBack⟩ := exists_of_place_eq_append row
  rcases front with _ | ⟨opening, front⟩
  · cases placedFront
  rcases back with _ | ⟨closing, _ | ⟨other, back⟩⟩
  · cases placedBack
  · obtain ⟨rfl, -⟩ := List.cons.inj placedFront
    obtain ⟨rfl, -⟩ := List.cons.inj placedBack
    have chain := chain_ofText src
    rw [whole, chain_append, chain_append] at chain
    have alone := (chain.2.1.of_kind fixed []).ofText_eq
    refine ⟨leftLexemes.flatMap text, (opening :: front ++ [closing]).flatMap text,
      rightLexemes.flatMap text, ?_, rfl, ?_, ?_⟩
    · rw [← flatMap_ofText src, whole, List.flatMap_append, List.flatMap_append]
    · simp [Token.ofText, Span.ofText, Position.start, Nat.add_assoc]
    · rw [← List.cons_append, ← row, tokenize_eq_place, ← place_advance_start, alone]
  · cases placedBack

end SexprCall
