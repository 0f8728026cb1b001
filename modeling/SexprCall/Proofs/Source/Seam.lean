import SexprCall.Proofs.Lexeme.Segmentation
import SexprCall.Proofs.Position.Count
import SexprCall.Proofs.Source.Completion

/-! Where two texts meet. Only the last lexeme of the first can become another one in front of the
second, and `GoesOn` says when it does. In all other cases the tokens of both stand side by side. -/
namespace SexprCall

namespace Lexeme

/-- A lexeme that ended with its source goes on in the text behind it. -/
def GoesOn (lexeme : Lexeme) (after : Text) : Prop :=
  match lexeme.kind with
  | .whitespace => ∃ c ∈ after.head?, c ∈ spacing
  | .identifier | .keyword => ∃ c ∈ after.head?, c ∉ wordEnds
  | .lineComment => after.head? ≠ some '\n'
  | .literal => lexeme.isUnclosed = true
  | _ => False

/-- The text of a word does not depend on what ends it. -/
theorem IsWord.iff_not_goesOn {text : Text} (word : IsWord text []) (after : Text) :
    IsWord text after ↔ ¬ ∃ c ∈ after.head?, c ∉ wordEnds := by
  constructor
  · rintro ⟨-, -, -, bounded⟩ ⟨c, front, inside⟩
    exact inside (bounded c front)
  · intro stops
    refine ⟨word.nonempty, word.inside, word.starts, fun c front => ?_⟩
    exact Decidable.not_not.1 fun inside => stops ⟨c, front, inside⟩

/-- One quote opens a literal, so another one is in its tail. -/
theorem isUnclosed_iff_count {text : Text} (front : text.head? = some Text.quoteMark) :
    isUnclosed ⟨.literal, text⟩ = true ↔ text.count Text.quoteMark = 1 := by
  obtain ⟨body, rfl⟩ := List.head?_eq_some_iff.1 front
  simp [isUnclosed, List.count_eq_zero]

/-- A lone quote is open, the empty literal is not. -/
example : isUnclosed ⟨.literal, ['\x22']⟩ = true ∧ isUnclosed ⟨.literal, ['\x22', '\x22']⟩ = false := by
  decide

/-- A lexeme at the end of a source is legal in front of more text unless it goes on there. -/
theorem Legal.iff_not_goesOn {lexeme : Lexeme} (ends : Legal lexeme []) {after : Text}
    (more : after ≠ []) : Legal lexeme after ↔ ¬ lexeme.GoesOn after := by
  obtain ⟨kind, text⟩ := lexeme
  cases kind with
  | whitespace =>
    constructor
    · rintro ⟨-, -, bounded⟩ ⟨c, front, blank⟩
      exact bounded c front blank
    · intro stops
      exact ⟨ends.1, ends.2.1, fun c front blank => stops ⟨c, front, blank⟩⟩
  | lineComment =>
    obtain ⟨c, rest, rfl⟩ := List.exists_cons_of_ne_nil more
    constructor
    · rintro ⟨-, -, bounded⟩ other
      exact other (congrArg some (bounded c rfl))
    · intro feed
      have feed : some c = some '\n' := Decidable.not_not.1 feed
      exact ⟨ends.1, ends.2.1, fun other front => Option.some.inj (front.symm.trans feed)⟩
  | identifier => exact (and_iff_left ends.2).trans (ends.1.iff_not_goesOn after)
  | keyword => exact (and_iff_left ends.2).trans (ends.1.iff_not_goesOn after)
  | literal =>
    obtain ⟨front, quotes⟩ := ends
    have unclosed := isUnclosed_iff_count front
    rcases quotes with ⟨two, back⟩ | ⟨one, -⟩
    · refine iff_of_true ⟨front, .inl ⟨two, back⟩⟩ fun goesOn => ?_
      exact absurd (two.symm.trans (unclosed.1 goesOn)) (by decide)
    · refine iff_of_false ?_ fun stops => stops (unclosed.2 one)
      rintro ⟨-, ⟨two, -⟩ | ⟨-, used⟩⟩
      · exact absurd (two.symm.trans one) (by decide)
      · exact more used
  | _ => exact iff_of_true ends id

/-- The lexemes of a text form a chain in front of another one if its last lexeme does not go on. -/
theorem chain_iff_not_goesOn {text after : Text} (more : after ≠ []) :
    Chain (ofText text) after ↔ ∀ last ∈ (ofText text).getLast?, ¬ last.GoesOn after := by
  have fits_iff (last : Lexeme) (back : last ∈ (ofText text).getLast?) :
      Fits last after ↔ ¬ last.GoesOn after := by
    obtain ⟨-, -, -, ends⟩ := exists_of_getLast? back
    rw [← ends.legal.iff_not_goesOn more]
    exact ⟨Fits.legal, Legal.fits⟩
  constructor
  · intro chain last back
    obtain ⟨before, split, -, -⟩ := exists_of_getLast? back
    rw [split, chain_append, chain_singleton] at chain
    exact (fits_iff last back).1 chain.2
  · intro stops
    exact chain_of_last fun last back => (fits_iff last back).2 (stops last back)

end Lexeme

open Lexeme

/-- The tokens of two texts stand side by side exactly where the lexemes of the first are a chain in
front of the second. -/
theorem tokenize_append_iff_chain (a b : Text) :
    tokenize (a ++ b) = tokenize a ++ (tokenize b).map (Token.shift (Position.start.advance a)) ↔
      Chain (ofText a) b := by
  refine ⟨fun apart => ?_, tokenize_append⟩
  have left : (tokenize a).map (ofToken (a ++ b)) = ofText a := by
    have same := map_ofToken_shift_within [] b (List.Subset.refl (tokenize a))
    simpa [Function.comp_def, Token.shift_by_start, Cursor.map_tokenize] using same
  have right : ((tokenize b).map (Token.shift (Position.start.advance a))).map (ofToken (a ++ b)) =
      ofText b := by
    have same := map_ofToken_shift_within a [] (List.Subset.refl (tokenize b))
    rwa [List.append_nil, Cursor.map_tokenize] at same
  have lexemes := congrArg (List.map (ofToken (a ++ b))) apart
  have chain := chain_ofText (a ++ b)
  rw [List.map_append, left, right, Cursor.map_tokenize] at lexemes
  rw [lexemes, chain_append, List.append_nil, flatMap_ofText] at chain
  exact chain.1

/-- All tokens of a text but the last are the first ones of every longer text. The tokens of a text
behind it follow on all of its own exactly if there is nothing on one side or the last token does not
go on: spacing up to other characters, a word up to spacing and parentheses, a comment up to a line
feed, and a literal without its closing quote anywhere. -/
theorem tokenize_append_iff (a b : Text) :
    let origin : Position := ⟨a.length, a.count '\n' + 1, a.lastLine.length + 1⟩
    (tokenize a).dropLast <+: tokenize (a ++ b) ∧
    (tokenize (a ++ b) = tokenize a ++ (tokenize b).map (Token.shift origin) ↔
      a = [] ∨ b = [] ∨ ∀ last ∈ (tokenize a).getLast?, ¬ (ofToken a last).GoesOn b) := by
  intro origin
  constructor
  · by_cases empty : a = []
    · rw [empty]
      exact List.nil_prefix
    · obtain ⟨before, last, grown, after, short, long, -⟩ := exists_grown empty b
      rw [short, long, List.dropLast_concat]
      exact List.prefix_append _ _
  · rw [show origin = Position.start.advance a from (Position.start_advance a).symm,
      tokenize_append_iff_chain]
    by_cases front : a = []
    · rw [front, ofText_nil]
      exact iff_of_true trivial (.inl rfl)
    by_cases back : b = []
    · rw [back]
      exact iff_of_true (chain_ofText a) (.inr (.inl rfl))
    · rw [chain_iff_not_goesOn back, ← Cursor.map_tokenize]
      simp [front, back]

end SexprCall
