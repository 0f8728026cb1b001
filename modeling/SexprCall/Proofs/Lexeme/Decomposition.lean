import SexprCall.Cursor

/-! The lexical decomposition of a text. `Fits` says what each kind of lexeme looks like and where it
ends, without a scanner; the scanner finds the one first lexeme that fits. -/
namespace SexprCall.Lexeme

def BoundedBy (ends : Char → Prop) (text : Text) : Prop := ∀ c ∈ text.head?, ends c

theorem boundedBy_nil (ends : Char → Prop) : BoundedBy ends [] := by simp [BoundedBy]

theorem BoundedBy.cons {ends : Char → Prop} {c : Char} (stops : ends c) (text : Text) :
    BoundedBy ends (c :: text) := by
  intro other front
  obtain rfl : c = other := Option.some.inj front
  exact stops

theorem takeWhile_append_of_bounded {within : Char → Bool} {body after : Text}
    (inside : ∀ c ∈ body, within c = true) (bounded : BoundedBy (within · = false) after) :
    (body ++ after).takeWhile within = body := by
  rw [List.takeWhile_append_of_pos inside]
  cases after with
  | nil => simp
  | cons c after =>
    have stops : within c = false := bounded c rfl
    simp [stops]

theorem dropWhile_append_of_bounded {within : Char → Bool} {body after : Text}
    (inside : ∀ c ∈ body, within c = true) (bounded : BoundedBy (within · = false) after) :
    (body ++ after).dropWhile within = after := by
  rw [List.dropWhile_append_of_pos inside]
  cases after with
  | nil => simp
  | cons c after =>
    have stops : within c = false := bounded c rfl
    simp [stops]

theorem dropWhile_bounded (within : Char → Bool) (text : Text) :
    BoundedBy (within · = false) (text.dropWhile within) := by
  intro c first
  have stops := List.head?_dropWhile_not within text
  rw [Option.mem_def.1 first] at stops
  simpa using stops

theorem bne_of_not_mem {stop : Char} {body : Text} (inside : stop ∉ body) :
    ∀ c ∈ body, (c != stop) = true := by
  intro c member
  simpa using fun same : c = stop => inside (same ▸ member)

theorem of_mem_takeWhile {within : Char → Bool} {text : Text} {c : Char}
    (member : c ∈ text.takeWhile within) : within c = true :=
  List.all_eq_true.1 List.all_takeWhile c member

/-- A word begins with a character that begins nothing else. -/
def startsWord (c : Char) : Prop :=
  c ≠ ';' ∧ single? c = none ∧ isSpacing c = false ∧ c ∉ literalQuotes

/-- A lexeme has the form of its kind, and the text after it does not continue it. -/
inductive Fits : Lexeme → Text → Prop
  | comment {body after : Text} : '\n' ∉ body → BoundedBy (· = '\n') after →
      Fits ⟨.lineComment, ';' :: body⟩ after
  | single {c : Char} {kind : TokenKind} {after : Text} : single? c = some kind →
      Fits ⟨kind, [c]⟩ after
  | spacing {first : Char} {body after : Text} : (∀ c ∈ first :: body, isSpacing c = true) →
      BoundedBy (isSpacing · = false) after → Fits ⟨.whitespace, first :: body⟩ after
  | word {first : Char} {body after : Text} : startsWord first → (∀ c ∈ body, endsWord c = false) →
      BoundedBy (endsWord · = true) after → Fits ⟨classify (first :: body), first :: body⟩ after
  | closed {quote : Char} {body after : Text} : quote ∈ literalQuotes → quote ∉ body →
      Fits ⟨.literal, quote :: body ++ [quote]⟩ after
  /-- Without its closing quote a literal takes all the text there is. -/
  | unclosed {quote : Char} {body : Text} : quote ∈ literalQuotes → quote ∉ body →
      Fits ⟨.literal, quote :: body⟩ []

theorem classify_of_not_startsKeyword {first : Char} {body : Text}
    (other : ¬ startsKeyword first = true) : classify (first :: body) = .identifier :=
  if_neg fun keyword => other (startsKeyword_of_mem keyword)

theorem startsWord_of_startsKeyword {c : Char} (keyword : startsKeyword c = true)
    (comment : c ≠ ';') (single : single? c = none) (spacing : ¬ isSpacing c = true) :
    startsWord c := by
  refine ⟨comment, single, by simpa using spacing, ?_⟩
  intro quote
  obtain rfl : c = '\x22' := by simpa [literalQuotes, Text.quoteMark] using quote
  revert keyword
  decide

theorem literal_fits {quote : Char} (rest : Text) (quotes : quote ∈ literalQuotes) :
    Fits (literal quote rest).1 (literal quote rest).2 := by
  have inside : quote ∉ rest.takeWhile (· != quote) := by
    intro member
    simpa using of_mem_takeWhile member
  have bounded := dropWhile_bounded (· != quote) rest
  unfold literal
  split
  · exact .unclosed quotes inside
  · rename_i close after split
    rw [split] at bounded
    obtain rfl : close = quote := by simpa using bounded close rfl
    exact .closed quotes inside

/-- What the scanner finds fits. -/
theorem scan_fits (first : Char) (rest : Text) : Fits (scan first rest).1 (scan first rest).2 := by
  have word : startsWord first → Fits
      ⟨classify (first :: rest.takeWhile (!endsWord ·)), first :: rest.takeWhile (!endsWord ·)⟩
      (rest.dropWhile (!endsWord ·)) := by
    intro starts
    refine .word starts ?_ ?_
    · intro c member
      simpa using of_mem_takeWhile member
    · intro c member
      simpa using dropWhile_bounded (!endsWord ·) rest c member
  unfold scan
  split
  · rename_i comment
    subst comment
    refine .comment ?_ ?_
    · intro member
      simpa using of_mem_takeWhile member
    · intro c member
      simpa using dropWhile_bounded (· != '\n') rest c member
  rename_i comment
  split
  · exact .single ‹_›
  rename_i single
  split
  · rename_i spacing
    refine .spacing ?_ (dropWhile_bounded isSpacing rest)
    intro c member
    rcases List.mem_cons.1 member with rfl | member
    · exact spacing
    · exact of_mem_takeWhile member
  rename_i spacing
  split
  · exact word (startsWord_of_startsKeyword ‹_› comment single spacing)
  rename_i keyword
  split
  · rename_i quotes
    exact literal_fits rest (by simpa using quotes)
  · rename_i quotes
    have starts : startsWord first := ⟨comment, single, by simpa using spacing, by simpa using quotes⟩
    simpa [run, classify_of_not_startsKeyword keyword] using word starts

theorem scan_of_startsWord {first : Char} (starts : startsWord first) (rest : Text) :
    scan first rest =
      (⟨classify (first :: rest.takeWhile (!endsWord ·)), first :: rest.takeWhile (!endsWord ·)⟩,
        rest.dropWhile (!endsWord ·)) := by
  obtain ⟨comment, single, spacing, quotes⟩ := starts
  have plain : literalQuotes.contains first = false := by simpa using quotes
  unfold scan
  simp only [comment, single, spacing, plain, if_false, Bool.false_eq_true]
  split
  · rfl
  · rw [classify_of_not_startsKeyword ‹_›]
    rfl

theorem scan_of_single {c : Char} {kind : TokenKind} (single : single? c = some kind)
    (rest : Text) : scan c rest = (⟨kind, [c]⟩, rest) := by
  have comment : c ≠ ';' := by
    rintro rfl
    simp [single?] at single
  simp [scan, comment, single]

theorem scan_of_spacing {c : Char} (spacing : isSpacing c = true) (rest : Text) :
    scan c rest = run .whitespace isSpacing c rest := by
  have cases : c = ' ' ∨ c = '\t' ∨ c = '\n' := by simpa [isSpacing, Lexeme.spacing] using spacing
  rcases cases with rfl | rfl | rfl <;> rfl

theorem scan_of_quote {quote : Char} (quotes : quote ∈ literalQuotes) (rest : Text) :
    scan quote rest = literal quote rest := by
  obtain rfl : quote = '\x22' := by simpa [literalQuotes, Text.quoteMark] using quotes
  rfl

/-- Only one first lexeme fits a text: the one that the scanner finds. -/
theorem scan_of_fits {lexeme : Lexeme} {after : Text} (fits : Fits lexeme after) :
    ∀ {first : Char} {rest : Text}, lexeme.text ++ after = first :: rest →
      scan first rest = (lexeme, after) := by
  intro first rest whole
  cases fits with
  | @comment body _ inside bounded =>
    obtain ⟨rfl, rfl⟩ : ';' = first ∧ body ++ after = rest := by simpa using whole
    have within := bne_of_not_mem inside
    have stops : BoundedBy (fun c => (c != '\n') = false) after := by
      intro c member
      simpa using bounded c member
    simp only [scan, run, if_true, takeWhile_append_of_bounded within stops,
      dropWhile_append_of_bounded within stops]
  | single found =>
    obtain ⟨rfl, rfl⟩ : _ = first ∧ after = rest := by simpa using whole
    exact scan_of_single found after
  | @spacing c body _ inside bounded =>
    obtain ⟨rfl, rfl⟩ : c = first ∧ body ++ after = rest := by simpa using whole
    have within : ∀ c ∈ body, isSpacing c = true := fun c member =>
      inside c (List.mem_cons_of_mem _ member)
    rw [scan_of_spacing (inside c List.mem_cons_self), run,
      takeWhile_append_of_bounded within bounded, dropWhile_append_of_bounded within bounded]
  | @word c body _ starts inside bounded =>
    obtain ⟨rfl, rfl⟩ : c = first ∧ body ++ after = rest := by simpa using whole
    have within : ∀ c ∈ body, (!endsWord c) = true := by
      intro c member
      simpa using inside c member
    have stops : BoundedBy (fun c => (!endsWord c) = false) after := by
      intro c member
      simpa using bounded c member
    rw [scan_of_startsWord starts, takeWhile_append_of_bounded within stops,
      dropWhile_append_of_bounded within stops]
  | @closed quote body _ quotes inside =>
    obtain ⟨rfl, rfl⟩ : quote = first ∧ body ++ quote :: after = rest := by simpa using whole
    have within := bne_of_not_mem inside
    have stops : BoundedBy (fun c => (c != quote) = false) (quote :: after) :=
      .cons (bne_self_eq_false quote) after
    simp only [scan_of_quote quotes, literal, takeWhile_append_of_bounded within stops,
      dropWhile_append_of_bounded within stops]
  | @unclosed quote body quotes inside =>
    obtain ⟨rfl, rfl⟩ : quote = first ∧ body = rest := by simpa using whole
    have within := bne_of_not_mem inside
    have stops := boundedBy_nil fun c => (c != quote) = false
    have taken := takeWhile_append_of_bounded within stops
    have dropped := dropWhile_append_of_bounded within stops
    rw [List.append_nil] at taken dropped
    simp only [scan_of_quote quotes, literal, taken, dropped]

theorem scan_eq_iff {lexeme : Lexeme} {first : Char} {rest after : Text} :
    scan first rest = (lexeme, after) ↔
      lexeme.text ++ after = first :: rest ∧ Fits lexeme after := by
  constructor
  · intro found
    have fits := scan_fits first rest
    have whole := scan_append first rest
    rw [found] at fits whole
    exact ⟨whole, fits⟩
  · rintro ⟨whole, fits⟩
    exact scan_of_fits fits whole

theorem Fits.text_ne_nil {lexeme : Lexeme} {after : Text} (fits : Fits lexeme after) :
    lexeme.text ≠ [] := by
  cases fits <;> simp

/-- The scanner finds no reserved kind and no end of input. -/
theorem Fits.kind_scanned {lexeme : Lexeme} {after : Text} (fits : Fits lexeme after) :
    lexeme.kind ≠ .dummy ∧ lexeme.kind ≠ .endOfInput := by
  cases fits with
  | single single =>
    refine ⟨?_, single?_ne_endOfInput single⟩
    rintro rfl
    unfold single? at single
    split at single <;> simp at single
  | word =>
    unfold classify
    split <;> simp
  | comment | spacing | closed | unclosed => simp

theorem eq_of_single?_openParen {c : Char} (single : single? c = some .openParen) : c = '(' := by
  unfold single? at single
  split at single <;> simp_all

theorem eq_of_single?_closeParen {c : Char} (single : single? c = some .closeParen) : c = ')' := by
  unfold single? at single
  split at single <;> simp_all

/-- A parenthesis is one character. -/
theorem Fits.text_parenthesis {lexeme : Lexeme} {after : Text} (fits : Fits lexeme after) :
    (lexeme.kind = .openParen → lexeme.text = ['(']) ∧
      (lexeme.kind = .closeParen → lexeme.text = [')']) := by
  cases fits with
  | single single =>
    constructor
    · rintro rfl
      rw [eq_of_single?_openParen single]
    · rintro rfl
      rw [eq_of_single?_closeParen single]
  | word =>
    unfold classify
    split <;> simp
  | comment | spacing | closed | unclosed => simp

def ofText : Text → List Lexeme
  | [] => []
  | first :: rest => (scan first rest).1 :: ofText (scan first rest).2
termination_by text => text.length
decreasing_by
  have shorter := scan_rest_length first rest
  simp only [List.length_cons]
  omega

@[simp] theorem ofText_nil : ofText [] = [] := by rw [ofText]

theorem ofText_append {lexeme : Lexeme} {after : Text} (fits : Fits lexeme after) :
    ofText (lexeme.text ++ after) = lexeme :: ofText after := by
  cases split : lexeme.text ++ after with
  | nil => exact absurd (List.append_eq_nil_iff.1 split).1 fits.text_ne_nil
  | cons first rest => rw [ofText, scan_of_fits fits split]

/-- The texts of the lexemes make up the text, and each lexeme fits what follows it. -/
theorem ofText_induction {motive : Text → List Lexeme → Prop} (nil : motive [] [])
    (cons : ∀ lexeme after, Fits lexeme after → motive after (ofText after) →
      motive (lexeme.text ++ after) (lexeme :: ofText after)) (text : Text) :
    motive text (ofText text) := by
  fun_induction ofText text with
  | case1 => exact nil
  | case2 first rest ih =>
    have step := cons _ _ (scan_fits first rest) ih
    rwa [scan_append] at step

theorem flatMap_ofText (text : Text) : (ofText text).flatMap Lexeme.text = text := by
  induction text using ofText_induction with
  | nil => rfl
  | cons lexeme after _ ih => simp [ih]

/-- Each lexeme fits what the later ones make up. -/
theorem fits_of_split {text : Text} {before after : List Lexeme} {lexeme : Lexeme}
    (split : ofText text = before ++ lexeme :: after) :
    Fits lexeme (after.flatMap Lexeme.text) := by
  revert before
  induction text using ofText_induction with
  | nil => simp
  | cons first rest fits ih =>
    intro before split
    cases before with
    | nil =>
      obtain ⟨rfl, rfl⟩ := List.cons.inj split
      rwa [flatMap_ofText]
    | cons _ before => exact ih (List.cons.inj split).2

end SexprCall.Lexeme
