import SexprCall.Proofs.Lexeme.Chain
import SexprCall.Proofs.Cursor.Tiling

/-! Segmentations of a text. `Legal` goes through the kinds and says of each which texts it has and what
may follow them, in terms of characters alone. Every text has one segmentation into legal lexemes, and
its tokens are that segmentation. -/
namespace SexprCall

namespace Lexeme

def singles : List (TokenKind × Char) := [
  (.backquote, '\x27'), (.backquote, '\x60'), (.ampersand, '&'), (.equals, '='), (.bang, '!'),
  (.openAngleBracket, '<'), (.closeAngleBracket, '>'), (.openParen, '('), (.closeParen, ')'),
  (.comma, ',')]

def wordEnds : List Char := [' ', '\t', '\n', '(', ')']

/-- No word begins with one of these, although it may go on with them. -/
def otherStarts : List Char := [';', '\x27', '\x60', '&', '=', '!', '<', '>', ',', '\x22']

structure IsWord (text after : Text) : Prop where
  nonempty : text ≠ []
  inside : ∀ c ∈ text, c ∉ wordEnds
  starts : ∀ c ∈ text.head?, c ∉ otherStarts
  ends : BoundedBy (· ∈ wordEnds) after

/-- The lexeme has a text of its kind, in front of a text that ends it. -/
def Legal (lexeme : Lexeme) (after : Text) : Prop :=
  match lexeme.kind with
  | .lineComment =>
    lexeme.text.head? = some ';' ∧ '\n' ∉ lexeme.text ∧ BoundedBy (· = '\n') after
  | .whitespace =>
    lexeme.text ≠ [] ∧ (∀ c ∈ lexeme.text, c ∈ spacing) ∧ BoundedBy (· ∉ spacing) after
  | .literal =>
    lexeme.text.head? = some '\x22' ∧
      (lexeme.text.count '\x22' = 2 ∧ lexeme.text.getLast? = some '\x22' ∨
        lexeme.text.count '\x22' = 1 ∧ after = [])
  | .keyword => IsWord lexeme.text after ∧ lexeme.text ∈ keywords
  | .identifier => IsWord lexeme.text after ∧ lexeme.text ∉ keywords
  | kind => ∃ c, lexeme.text = [c] ∧ (kind, c) ∈ singles

theorem mem_singles {kind : TokenKind} {c : Char} : (kind, c) ∈ singles ↔ single? c = some kind := by
  constructor
  · intro member
    simp only [singles, List.mem_cons, Prod.mk.injEq, List.not_mem_nil, or_false] at member
    rcases member with ⟨rfl, rfl⟩ | ⟨rfl, rfl⟩ | ⟨rfl, rfl⟩ | ⟨rfl, rfl⟩ | ⟨rfl, rfl⟩ | ⟨rfl, rfl⟩ |
      ⟨rfl, rfl⟩ | ⟨rfl, rfl⟩ | ⟨rfl, rfl⟩ | ⟨rfl, rfl⟩ <;> rfl
  · intro single
    unfold single? at single
    split at single <;> first
      | obtain rfl := Option.some.inj single
        decide
      | cases single

theorem isSpacing_iff {c : Char} : isSpacing c = true ↔ c ∈ spacing := by
  simp [isSpacing]

theorem isSpacing_eq_false_iff {c : Char} : isSpacing c = false ↔ c ∉ spacing := by
  rw [← isSpacing_iff, Bool.not_eq_true]

theorem endsWord_iff {c : Char} : endsWord c = true ↔ c ∈ wordEnds := by
  simp only [endsWord, wordEnds, isSpacing, spacing, Bool.or_eq_true, beq_iff_eq, List.contains_cons,
    List.contains_nil, List.mem_cons, List.not_mem_nil]
  grind

theorem endsWord_eq_false_iff {c : Char} : endsWord c = false ↔ c ∉ wordEnds := by
  rw [← endsWord_iff, Bool.not_eq_true]

theorem startsWord_iff {c : Char} : startsWord c ↔ c ∉ otherStarts ∧ c ∉ wordEnds := by
  have single : single? c = none ↔ c ∉ singles.map Prod.snd := by
    simp [Option.eq_none_iff_forall_ne_some, ← mem_singles]
  rw [startsWord, single, isSpacing_eq_false_iff]
  simp only [singles, otherStarts, wordEnds, spacing, literalQuotes, Text.quoteMark, List.map_cons,
    List.map_nil, List.mem_cons, List.not_mem_nil, or_false, not_or]
  constructor <;> intro others <;> simp [others]

/-- A text is a word in front of another one in the sense of the form, too. -/
theorem isWord_iff {text after : Text} :
    IsWord text after ↔ ∃ first body, text = first :: body ∧ startsWord first ∧
      (∀ c ∈ body, endsWord c = false) ∧ BoundedBy (endsWord · = true) after := by
  constructor
  · rintro ⟨nonempty, inside, starts, ends⟩
    obtain ⟨first, body, rfl⟩ := List.exists_cons_of_ne_nil nonempty
    rw [List.forall_mem_cons] at inside
    refine ⟨first, body, rfl, startsWord_iff.2 ⟨starts first rfl, inside.1⟩, ?_, ?_⟩
    · exact fun c member => endsWord_eq_false_iff.2 (inside.2 c member)
    · exact fun c next => endsWord_iff.2 (ends c next)
  · rintro ⟨first, body, rfl, starts, inside, ends⟩
    obtain ⟨other, apart⟩ := startsWord_iff.1 starts
    refine ⟨List.cons_ne_nil _ _, ?_, ?_, fun c next => endsWord_iff.1 (ends c next)⟩
    · exact List.forall_mem_cons.2 ⟨apart, fun c member => endsWord_eq_false_iff.1 (inside c member)⟩
    · intro c front
      obtain rfl : first = c := Option.some.inj front
      exact other

/-- Two quotes, one at each end, enclose a body without quotes. -/
theorem exists_closed {quote : Char} {body : Text} (two : (quote :: body).count quote = 2)
    (back : (quote :: body).getLast? = some quote) :
    ∃ inside, body = inside ++ [quote] ∧ quote ∉ inside := by
  obtain ⟨front, split⟩ := List.getLast?_eq_some_iff.1 back
  cases front with
  | nil =>
    obtain ⟨-, rfl⟩ := List.cons.inj split
    simp at two
  | cons first inside =>
    obtain ⟨rfl, rfl⟩ := List.cons.inj split
    refine ⟨inside, rfl, List.count_eq_zero.1 ?_⟩
    simpa using two

/-- What fits by its form is legal by its kind. -/
theorem Fits.legal {lexeme : Lexeme} {after : Text} (fits : Fits lexeme after) :
    Legal lexeme after := by
  cases fits with
  | comment inside bounded => exact ⟨rfl, by simpa using inside, bounded⟩
  | @single c kind _ single =>
    have found := mem_singles.2 single
    unfold single? at single
    split at single <;> first
      | obtain rfl := Option.some.inj single
        exact ⟨_, rfl, found⟩
      | cases single
  | spacing inside bounded =>
    exact ⟨List.cons_ne_nil _ _, fun c member => isSpacing_iff.1 (inside c member),
      fun c next => isSpacing_eq_false_iff.1 (bounded c next)⟩
  | @word first body _ starts inside bounded =>
    have word : IsWord (first :: body) after := isWord_iff.2 ⟨_, _, rfl, starts, inside, bounded⟩
    by_cases keyword : first :: body ∈ keywords
    · rw [classify, if_pos keyword]
      exact ⟨word, keyword⟩
    · rw [classify, if_neg keyword]
      exact ⟨word, keyword⟩
  | @closed quote body _ quotes inside =>
    obtain rfl : quote = '\x22' := by simpa [literalQuotes, Text.quoteMark] using quotes
    refine ⟨rfl, .inl ⟨?_, List.getLast?_concat⟩⟩
    simp [List.count_eq_zero.2 inside]
  | @unclosed quote body quotes inside =>
    obtain rfl : quote = '\x22' := by simpa [literalQuotes, Text.quoteMark] using quotes
    refine ⟨rfl, .inr ⟨?_, rfl⟩⟩
    simp [List.count_eq_zero.2 inside]

/-- The kind and the characters leave one form. -/
theorem Legal.fits {lexeme : Lexeme} {after : Text} (legal : Legal lexeme after) :
    Fits lexeme after := by
  obtain ⟨kind, text⟩ := lexeme
  cases kind with
  | lineComment =>
    obtain ⟨front, inside, bounded⟩ := legal
    obtain ⟨body, rfl⟩ := List.head?_eq_some_iff.1 front
    exact .comment (fun member => inside (List.mem_cons_of_mem _ member)) bounded
  | whitespace =>
    obtain ⟨nonempty, inside, bounded⟩ := legal
    obtain ⟨first, body, rfl⟩ := List.exists_cons_of_ne_nil nonempty
    exact .spacing (fun c member => isSpacing_iff.2 (inside c member))
      fun c next => isSpacing_eq_false_iff.2 (bounded c next)
  | literal =>
    obtain ⟨front, ends⟩ := legal
    obtain ⟨body, rfl⟩ := List.head?_eq_some_iff.1 front
    have quotes : '\x22' ∈ literalQuotes := List.mem_singleton_self _
    rcases ends with ⟨two, back⟩ | ⟨one, rfl⟩
    · obtain ⟨inside, rfl, free⟩ := exists_closed two back
      exact .closed quotes free
    · exact .unclosed quotes (List.count_eq_zero.1 (by simpa using one))
  | keyword =>
    obtain ⟨word, keyword⟩ := legal
    obtain ⟨first, body, rfl, starts, inside, bounded⟩ := isWord_iff.1 word
    have fits := Fits.word starts inside bounded
    rwa [classify, if_pos keyword] at fits
  | identifier =>
    obtain ⟨word, other⟩ := legal
    obtain ⟨first, body, rfl, starts, inside, bounded⟩ := isWord_iff.1 word
    have fits := Fits.word starts inside bounded
    rwa [classify, if_neg other] at fits
  | _ =>
    obtain ⟨c, rfl, single⟩ := legal
    exact .single (mem_singles.1 single)

structure Segments (text : Text) (lexemes : List Lexeme) : Prop where
  whole : lexemes.flatMap Lexeme.text = text
  legal : ∀ before lexeme after, lexemes = before ++ lexeme :: after →
    lexeme.Legal (after.flatMap Lexeme.text)

theorem chain_of_fits {lexemes : List Lexeme}
    (fits : ∀ before lexeme after, lexemes = before ++ lexeme :: after →
      Fits lexeme (after.flatMap text)) : Chain lexemes [] := by
  induction lexemes with
  | nil => trivial
  | cons first later ih =>
    rw [Chain, List.append_nil]
    refine ⟨fits [] first later rfl, ih fun before lexeme after split => ?_⟩
    exact fits (first :: before) lexeme after (by rw [split, List.cons_append])

theorem segments_iff {text : Text} {lexemes : List Lexeme} :
    Segments text lexemes ↔ lexemes = ofText text := by
  constructor
  · rintro ⟨rfl, legal⟩
    have chain : Chain lexemes [] := chain_of_fits fun before lexeme after split =>
      (legal before lexeme after split).fits
    exact chain.ofText_eq.symm
  · rintro rfl
    exact ⟨flatMap_ofText text, fun before lexeme after split => (fits_of_split split).legal⟩

end Lexeme

/-- The tokens of a source, taken for kind and text, are the one segmentation of the source into legal
lexemes. None of them is empty, and none is of a reserved kind or the end of input. -/
theorem tokenize_segments (src : Text) :
    (∀ lexemes, Lexeme.Segments src lexemes ↔
      lexemes = (tokenize src).map (Lexeme.ofToken src)) ∧
    ∀ token ∈ tokenize src, token.text src ≠ [] ∧ token.kind ≠ .dummy ∧
      token.kind ≠ .endOfInput := by
  constructor
  · intro lexemes
    rw [Cursor.map_tokenize]
    exact Lexeme.segments_iff
  · intro token member
    exact ⟨text_ne_nil_of_mem_tokenize member, kind_of_mem_tokenize member⟩

end SexprCall
