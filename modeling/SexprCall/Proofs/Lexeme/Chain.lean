import SexprCall.Proofs.Lexeme.Decomposition

/-! Chains of lexemes. Where a lexeme ends is settled by the first character behind it, so lexemes
that stand in a row are found again wherever the row stands, as long as its last one still ends
there. -/
namespace SexprCall.Lexeme

theorem BoundedBy.of_head {ends : Char → Prop} {after other : Text} (bounded : BoundedBy ends after)
    (same : other.head? = after.head?) : BoundedBy ends other := by
  intro c first
  rw [same] at first
  exact bounded c first

/-- Of what follows a lexeme, the first character alone matters. -/
theorem Fits.of_head {lexeme : Lexeme} {after other : Text} (fits : Fits lexeme after)
    (same : other.head? = after.head?) : Fits lexeme other := by
  cases fits with
  | comment inside bounded => exact .comment inside (bounded.of_head same)
  | single single => exact .single single
  | spacing inside bounded => exact .spacing inside (bounded.of_head same)
  | word starts inside bounded => exact .word starts inside (bounded.of_head same)
  | closed quotes inside => exact .closed quotes inside
  | unclosed quotes inside =>
    obtain rfl : other = [] := List.head?_eq_none_iff.1 same
    exact .unclosed quotes inside

/-- The kinds of lexemes that may go on when more text follows. -/
def growingKinds : List TokenKind := [.whitespace, .lineComment, .literal, .identifier, .keyword]

theorem classify_eq (word : Text) : classify word = .keyword ∨ classify word = .identifier := by
  unfold classify
  split <;> simp

theorem single?_not_mem_growingKinds {c : Char} {kind : TokenKind}
    (single : single? c = some kind) : kind ∉ growingKinds := by
  unfold single? at single
  split at single <;> simp_all [growingKinds, eq_comm]

/-- All other lexemes are single characters. -/
theorem Fits.single_of_kind {lexeme : Lexeme} {after : Text} (fits : Fits lexeme after)
    (fixed : lexeme.kind ∉ growingKinds) :
    ∃ c, lexeme.text = [c] ∧ single? c = some lexeme.kind := by
  cases fits with
  | single single => exact ⟨_, rfl, single⟩
  | @word first body =>
    rcases classify_eq (first :: body) with keyword | identifier
    · simp [keyword, growingKinds] at fixed
    · simp [identifier, growingKinds] at fixed
  | comment | spacing | closed | unclosed => simp [growingKinds] at fixed

theorem Fits.of_kind {lexeme : Lexeme} {after : Text} (fits : Fits lexeme after)
    (fixed : lexeme.kind ∉ growingKinds) (other : Text) : Fits lexeme other := by
  obtain ⟨kind, text⟩ := lexeme
  obtain ⟨c, rfl, single⟩ := fits.single_of_kind fixed
  exact .single single

theorem Fits.head?_append {lexeme : Lexeme} {after : Text} (fits : Fits lexeme after) (more : Text) :
    (lexeme.text ++ more).head? = lexeme.text.head? := by
  rcases whole : lexeme.text with _ | ⟨c, rest⟩
  · exact absurd whole fits.text_ne_nil
  · rfl

/-- Each of the lexemes fits the later ones and the text after them. -/
def Chain : List Lexeme → Text → Prop
  | [], _ => True
  | lexeme :: later, after => Fits lexeme (later.flatMap text ++ after) ∧ Chain later after

theorem chain_append {first second : List Lexeme} {after : Text} :
    Chain (first ++ second) after ↔ Chain first (second.flatMap text ++ after) ∧ Chain second after := by
  induction first with
  | nil => simp [Chain]
  | cons lexeme first ih => simp [Chain, ih, and_assoc]

theorem chain_singleton {lexeme : Lexeme} {after : Text} : Chain [lexeme] after ↔ Fits lexeme after := by
  simp [Chain]

theorem Chain.of_head {lexemes : List Lexeme} {after other : Text} (chain : Chain lexemes after)
    (same : other.head? = after.head?) : Chain lexemes other := by
  induction lexemes with
  | nil => trivial
  | cons lexeme later ih =>
    refine ⟨chain.1.of_head ?_, ih chain.2⟩
    rw [List.head?_append, List.head?_append, same]

theorem chain_ofText (text : Text) : Chain (ofText text) [] := by
  induction text using ofText_induction with
  | nil => trivial
  | cons lexeme after fits ih =>
    refine ⟨?_, ih⟩
    rwa [flatMap_ofText, List.append_nil]

/-- The lexemes of a chain are found again, and after them those of the text that follows. -/
theorem Chain.ofText_append {lexemes : List Lexeme} {after : Text} (chain : Chain lexemes after) :
    ofText (lexemes.flatMap text ++ after) = lexemes ++ ofText after := by
  induction lexemes with
  | nil => rfl
  | cons lexeme later ih =>
    rw [List.flatMap_cons, List.append_assoc, Lexeme.ofText_append chain.1, ih chain.2]
    rfl

theorem Chain.ofText_eq {lexemes : List Lexeme} (chain : Chain lexemes []) :
    ofText (lexemes.flatMap text) = lexemes := by
  simpa using chain.ofText_append

/-- In a text that falls into two rows of lexemes, the first goes on as the second begins. -/
theorem chain_of_ofText_eq {text : Text} {first second : List Lexeme}
    (split : ofText text = first ++ second) {other : Text}
    (same : other.head? = (second.flatMap Lexeme.text).head?) : Chain first other := by
  have chain := chain_ofText text
  rw [split, chain_append, List.append_nil] at chain
  exact chain.1.of_head same

/-- After a lexeme that cannot go on anything may follow. -/
theorem Chain.of_kind {lexemes : List Lexeme} {last : Lexeme} {after : Text}
    (chain : Chain (lexemes ++ [last]) after) (fixed : last.kind ∉ growingKinds) (other : Text) :
    Chain (lexemes ++ [last]) other := by
  rw [chain_append, chain_singleton, List.flatMap_singleton] at chain ⊢
  obtain ⟨before, fits⟩ := chain
  refine ⟨before.of_head ?_, fits.of_kind fixed other⟩
  rw [fits.head?_append, fits.head?_append]

/-- The last lexeme of a text, which fits the end. -/
theorem exists_of_getLast? {text : Text} {last : Lexeme} (back : last ∈ (ofText text).getLast?) :
    ∃ before, ofText text = before ++ [last] ∧ text = before.flatMap Lexeme.text ++ last.text ∧
      Fits last [] := by
  obtain ⟨before, split⟩ := List.getLast?_eq_some_iff.1 back
  have whole := flatMap_ofText text
  have chain := chain_ofText text
  rw [split, List.flatMap_append, List.flatMap_singleton] at whole
  rw [split, chain_append, chain_singleton] at chain
  exact ⟨before, split, whole.symm, chain.2⟩

theorem exists_last_of_ne_nil {text : Text} (nonempty : text ≠ []) :
    ∃ before last, ofText text = before ++ [last] ∧ text = before.flatMap Lexeme.text ++ last.text ∧
      Fits last [] := by
  rcases back : (ofText text).getLast? with _ | last
  · have whole := flatMap_ofText text
    rw [List.getLast?_eq_none_iff.1 back] at whole
    exact absurd whole.symm nonempty
  · obtain ⟨before, facts⟩ := exists_of_getLast? back
    exact ⟨before, last, facts⟩

/-- If the last lexeme of a text fits what follows, all of them do. -/
theorem chain_of_last {text after : Text}
    (last : ∀ lexeme ∈ (ofText text).getLast?, Fits lexeme after) : Chain (ofText text) after := by
  rcases back : (ofText text).getLast? with _ | lexeme
  · rw [List.getLast?_eq_none_iff.1 back]
    trivial
  · obtain ⟨before, split, -, ends⟩ := exists_of_getLast? back
    have fits : Fits lexeme after := last lexeme back
    rw [split, chain_append, chain_singleton]
    refine ⟨chain_of_ofText_eq split ?_, fits⟩
    simp [ends.head?_append]

end SexprCall.Lexeme
