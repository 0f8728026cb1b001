import SexprCall.Proofs.Cursor.Placement
import SexprCall.Proofs.Reader.Feed

/-! What more text does to a source. Only its last token can change, and that token never ends a form
if it can: so the nodes read so far stand, and so does an error that is not the end of input. -/
namespace SexprCall

open Lexeme Grammar

/-- The first character tells what a lexeme is, except that a word may be a keyword or not. -/
theorem Lexeme.scan_kind (first : Char) (rest other : Text) :
    (scan first other).1.kind = (scan first rest).1.kind ∨
      (scan first rest).1.kind ∈ symbolKinds ∧ (scan first other).1.kind ∈ symbolKinds := by
  have word (text : Text) : classify text ∈ symbolKinds := by
    rcases classify_eq text with kind | kind <;> simp [kind, symbolKinds]
  by_cases comment : first = ';'
  · exact .inl (by simp [scan, comment])
  rcases single : single? first with _ | kind
  · by_cases spacing : isSpacing first = true
    · exact .inl (by rw [scan_of_spacing spacing, scan_of_spacing spacing]; rfl)
    by_cases quotes : first ∈ literalQuotes
    · exact .inl (by rw [scan_of_quote quotes, scan_of_quote quotes, literal_kind, literal_kind])
    · have starts : startsWord first := ⟨comment, single, by simpa using spacing, quotes⟩
      rw [scan_of_startsWord starts, scan_of_startsWord starts]
      exact .inr ⟨word _, word _⟩
  · exact .inl (by rw [scan_of_single single, scan_of_single single])

def Span.StartsLike (span other : Span) : Prop :=
  span.start = other.start ∧ span.startRow = other.startRow ∧ span.startCol = other.startCol

/-- What the last token of a source may become when text follows: a token from the same place on, of
the same kind unless both are words. Only some kinds go on at all. -/
structure Token.Grows (last grown : Token) : Prop where
  place : grown.span.StartsLike last.span
  kind : grown.kind = last.kind ∨ last.kind ∈ symbolKinds ∧ grown.kind ∈ symbolKinds
  fixed : last.kind ∉ growingKinds → grown = last

theorem exists_grown {a : Text} (nonempty : a ≠ []) (b : Text) :
    ∃ before last grown after, tokenize a = before ++ [last] ∧
      tokenize (a ++ b) = before ++ grown :: after ∧ last.Grows grown := by
  obtain ⟨before, lexeme, split, whole, ends⟩ := exists_last_of_ne_nil nonempty
  rcases text : lexeme.text with _ | ⟨first, rest⟩
  · exact absurd text ends.text_ne_nil
  have found : scan first rest = (lexeme, []) := scan_of_fits ends (by simp [text])
  obtain ⟨grown, after, scanned⟩ : ∃ grown after, scan first (rest ++ b) = (grown, after) :=
    ⟨_, _, rfl⟩
  have chain : Chain before (lexeme.text ++ b) :=
    chain_of_ofText_eq split (by simp [ends.head?_append])
  have lexemes : ofText (a ++ b) = before ++ grown :: ofText after := by
    rw [whole, List.append_assoc, chain.ofText_append, text, List.cons_append, ofText, scanned]
  let position := Position.start.advance (before.flatMap Lexeme.text)
  refine ⟨place .start before, .ofText position lexeme.kind lexeme.text,
    .ofText position grown.kind grown.text, place (position.advance grown.text) (ofText after),
    ?_, ?_, ⟨rfl, rfl, rfl⟩, ?_, ?_⟩
  · rw [tokenize_eq_place, split, place_append]
    rfl
  · rw [tokenize_eq_place, lexemes, place_append]
    rfl
  · have kind := scan_kind first rest (rest ++ b)
    rwa [found, scanned] at kind
  · intro fixed
    have same : scan first (rest ++ b) = (lexeme, b) :=
      scan_of_fits (ends.of_kind fixed b) (by simp [text])
    obtain ⟨rfl, -⟩ := Prod.mk.inj (scanned.symm.trans same)
    rfl

/-- The same error, or that of an unsupported token that was the last one of the source and has
grown. -/
inductive ReadError.Persists : ReadError → ReadError → Prop where
  | same {error} : Persists error error
  | unsupported {token grown} : grown.span.StartsLike token.span →
      grown.kind = token.kind ∨ token.kind ∈ symbolKinds ∧ grown.kind ∈ symbolKinds →
      Persists (.unsupported token) (.unsupported grown)

theorem Progress.take_error_of_grows {opened : List OpenForm} {last grown : Token}
    {error : ReadError} (grows : last.Grows grown) (failed : take opened last = .error error) :
    ∃ later, take opened grown = .error later ∧ error.Persists later := by
  have taken := Progress.taken opened last
  rw [failed] at taken
  cases taken with
  | unsupported means other =>
    have still : grown.kind.isTrivia = false ∧ grown.kind ≠ .openParen := by
      rcases grows.kind with same | ⟨-, word⟩
      · rw [same]
        exact ⟨means, other⟩
      · revert word
        generalize grown.kind = kind
        cases kind <;> decide
    exact ⟨_, take_of_taken (.unsupported still.1 still.2), .unsupported grows.place grows.kind⟩
  | unexpected means refused =>
    have fixed : last.kind ∉ growingKinds := by
      revert means refused
      generalize last.kind = kind
      cases kind <;> decide
    exact ⟨_, by rw [grows.fixed fixed, failed], .same⟩
  | tooDeep opens full =>
    have fixed : last.kind ∉ growingKinds := by simp [opens, growingKinds]
    exact ⟨_, by rw [grows.fixed fixed, failed], .same⟩

theorem Progress.take_complete_of_grows {opened : List OpenForm} {last grown : Token} {node : Node}
    (grows : last.Grows grown) (complete : take opened last = .ok (.complete node)) :
    take opened grown = .ok (.complete node) := by
  have taken := Progress.taken opened last
  rw [complete] at taken
  cases taken with
  | completes closes => rw [grows.fixed (by simp [closes, growingKinds]), complete]

structure Feed.Extended (short long : Feed) : Prop where
  nodes : short.nodes <+: long.nodes
  error : ∀ error, short.outcome = .error error →
    long.nodes = short.nodes ∧ ∃ later, long.outcome = .error later ∧ error.Persists later

theorem extended_of_grows {last grown : Token} (grows : last.Grows grown) (opened : List OpenForm)
    (after : List Token) : (feed opened [last]).Extended (feed opened (grown :: after)) := by
  cases taken : Progress.take opened last with
  | error error =>
    obtain ⟨later, failed, persists⟩ := Progress.take_error_of_grows grows taken
    rw [feed_of_error taken, feed_of_error failed]
    refine ⟨List.prefix_refl _, fun other same => ⟨rfl, later, rfl, ?_⟩⟩
    obtain rfl : error = other := by simpa using same
    exact persists
  | ok progress =>
    cases progress with
    | going later =>
      rw [feed_of_going taken]
      exact ⟨List.nil_prefix, by simp⟩
    | complete node =>
      rw [feed_of_complete taken, feed_of_complete (Progress.take_complete_of_grows grows taken)]
      exact ⟨by simp, by simp⟩

theorem extended_append {first second : List Token}
    (extended : ∀ opened, (feed opened first).Extended (feed opened second))
    (before : List Token) : (feed [] (before ++ first)).Extended (feed [] (before ++ second)) := by
  rcases fed : (feed [] before).outcome with error | opened
  · rw [feed_append_of_error fed, feed_append_of_error fed]
    exact ⟨List.prefix_refl _, fun error failed => ⟨rfl, error, failed, .same⟩⟩
  · rw [feed_append_of_ok fed, feed_append_of_ok fed]
    obtain ⟨nodes, error⟩ := extended opened
    refine ⟨List.prefix_append_right_inj _ |>.2 nodes, fun failure failed => ?_⟩
    obtain ⟨same, later⟩ := error failure failed
    exact ⟨by simp only [same], later⟩

theorem extended_tokenize (a b : Text) :
    (feed [] (tokenize a)).Extended (feed [] (tokenize (a ++ b))) := by
  by_cases empty : a = []
  · subst empty
    exact ⟨List.nil_prefix, fun error failed => by simp [tokenize_eq_place, place] at failed⟩
  · obtain ⟨before, last, grown, after, short, long, grows⟩ := exists_grown empty b
    rw [short, long]
    exact extended_append (fun opened => extended_of_grows grows opened after) before

/-- More text revokes nothing that a reader has read. If an error other than the end of input has
stopped it, it still stops there: after the same nodes, with the same error about a token from the same
place on. -/
theorem Reader.readAll_append (a b : Text) :
    let short := (ofText a).readAll
    let long := (ofText (a ++ b)).readAll
    short.nodes <+: long.nodes ∧
    ∀ error, short.error? = some error → error.token.kind ≠ .endOfInput →
      long.nodes = short.nodes ∧ ∃ later, long.error? = some later ∧ error.Persists later := by
  intro short long
  obtain ⟨nodes, stays⟩ := extended_tokenize a b
  obtain ⟨shortNodes, shortError⟩ := readAll_ofText a
  obtain ⟨longNodes, longError⟩ := readAll_ofText (a ++ b)
  rw [← shortNodes, ← longNodes] at nodes stays
  refine ⟨nodes, fun error stopped more => ?_⟩
  have failed : (feed [] (tokenize a)).outcome = .error error := by
    rw [show short.error? = _ from shortError, Feed.error?_eq_some] at stopped
    rcases stopped with failed | ⟨-, rfl⟩
    · exact failed
    · exact absurd rfl more
  obtain ⟨same, later, fails, persists⟩ := stays error failed
  refine ⟨same, later, ?_, persists⟩
  rw [show long.error? = _ from longError]
  exact Feed.error?_eq_some.2 (.inl fails)

/-- Outside of all forms a word is refused, also when more text makes a keyword of it. -/
theorem Reader.readAll_append_word :
    let a := "(f) no".toList
    let b := "t".toList
    let word : Token := ⟨.identifier, ⟨1, 5, 1, 6, 4, 6⟩, 2⟩
    (ofText a).readAll.error? = some (.unsupported word) ∧
      (ofText (a ++ b)).readAll.nodes = (ofText a).readAll.nodes ∧
      ∃ later, (ofText (a ++ b)).readAll.error? = some later ∧
        ReadError.Persists (.unsupported word) later := by
  intro a b word
  have stopped : (ofText a).readAll.error? = some (.unsupported word) := by
    rw [(readAll_ofText a).2]
    decide
  exact ⟨stopped, (readAll_append a b).2 _ stopped (by decide)⟩

end SexprCall
