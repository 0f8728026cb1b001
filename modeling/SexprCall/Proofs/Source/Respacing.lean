import SexprCall.Proofs.Cursor.Location
import SexprCall.Proofs.Grammar.Correspondence
import SexprCall.Proofs.Lexeme.Segmentation
import SexprCall.Proofs.Reader.Tally
import SexprCall.Proofs.Render.Success
import SexprCall.Proofs.Text.Trimming

/-! Spacing and comments do not matter. A source written anew with the same gap between any two tokens
that mean something has these tokens again; and such tokens settle what is read, what it renders to and
which of them is at fault. -/
namespace SexprCall

open Lexeme Grammar

namespace Lexeme

/-- The lexemes that mean something. -/
def meaningful (lexemes : List Lexeme) : List Lexeme := lexemes.filter (!·.kind.isTrivia)

theorem meaningful_cons {lexeme : Lexeme} (means : lexeme.kind.isTrivia = false)
    (later : List Lexeme) : meaningful (lexeme :: later) = lexeme :: meaningful later := by
  simp [meaningful, means]

theorem meaningful_cons_of_trivia {lexeme : Lexeme} (trivia : lexeme.kind.isTrivia = true)
    (later : List Lexeme) : meaningful (lexeme :: later) = meaningful later := by
  simp [meaningful, trivia]

theorem isSpacing_of_single? {c : Char} {kind : TokenKind} (single : single? c = some kind) :
    isSpacing c = false := by
  unfold single? at single
  split at single <;> first
    | rfl
    | cases single

theorem endsWord_of_isSpacing {c : Char} (spacing : isSpacing c = true) : endsWord c = true := by
  simp [endsWord, spacing]

/-- A lexeme that means something does not go on with spacing before it. -/
theorem Fits.first_not_spacing {lexeme : Lexeme} {after : Text} (fits : Fits lexeme after)
    (means : lexeme.kind.isTrivia = false) (more : Text) :
    BoundedBy (isSpacing · = false) (lexeme.text ++ more) := by
  cases fits with
  | comment | spacing => cases means
  | single single => exact .cons (isSpacing_of_single? single) more
  | word starts => exact .cons starts.2.2.1 _
  | closed quotes | unclosed quotes =>
    obtain rfl := List.mem_singleton.1 quotes
    have plain : isSpacing Text.quoteMark = false := rfl
    exact .cons plain _

theorem Fits.alone {lexeme : Lexeme} {after : Text} (fits : Fits lexeme after) : Fits lexeme [] := by
  cases fits with
  | comment inside => exact .comment inside (boundedBy_nil _)
  | single single => exact .single single
  | spacing inside => exact .spacing inside (boundedBy_nil _)
  | word starts inside => exact .word starts inside (boundedBy_nil _)
  | closed quotes inside => exact .closed quotes inside
  | unclosed quotes inside => exact .unclosed quotes inside

/-- Spacing ends a lexeme that means something, unless it is a literal that lacks its closing quote, and
nothing follows such a literal. -/
theorem Fits.before_spacing {lexeme : Lexeme} {after other : Text} (fits : Fits lexeme after)
    (means : lexeme.kind.isTrivia = false) (followed : after ≠ [])
    (spaced : BoundedBy (isSpacing · = true) other) : Fits lexeme other := by
  cases fits with
  | comment | spacing => cases means
  | single single => exact .single single
  | word starts inside => exact .word starts inside fun c next => endsWord_of_isSpacing (spaced c next)
  | closed quotes inside => exact .closed quotes inside
  | unclosed => exact absurd rfl followed

theorem Chain.exists_fits {lexemes : List Lexeme} {after : Text} (chain : Chain lexemes after) :
    ∀ lexeme ∈ lexemes, ∃ other, Fits lexeme other := by
  induction lexemes with
  | nil => simp
  | cons lexeme later ih => exact List.forall_mem_cons.2 ⟨⟨_, chain.1⟩, ih chain.2⟩

theorem flatMap_intersperse (kind : TokenKind) (gap : Text) (lexemes : List Lexeme) :
    (lexemes.intersperse ⟨kind, gap⟩).flatMap text = Text.joinWith gap (lexemes.map text) := by
  induction lexemes with
  | nil => rfl
  | cons lexeme later ih =>
    cases later with
    | nil => simp [Text.joinWith]
    | cons next later =>
      rw [List.intersperse_cons_cons, List.flatMap_cons, List.flatMap_cons, ih]
      exact (Text.joinWith_cons_cons gap lexeme.text next.text (later.map text)).symm

theorem meaningful_intersperse (gap : Text) {lexemes : List Lexeme}
    (means : ∀ lexeme ∈ lexemes, lexeme.kind.isTrivia = false) :
    meaningful (lexemes.intersperse ⟨.whitespace, gap⟩) = lexemes := by
  induction lexemes with
  | nil => rfl
  | cons lexeme later ih =>
    rw [List.forall_mem_cons] at means
    cases later with
    | nil => exact meaningful_cons means.1 []
    | cons next later =>
      rw [List.intersperse_cons_cons, meaningful_cons means.1, meaningful_cons_of_trivia rfl,
        ih means.2]

section

variable {gap : Text} (nonempty : gap ≠ []) (blank : ∀ c ∈ gap, c ∈ spacing)

include nonempty blank

theorem boundedBy_gap (more : Text) : BoundedBy (isSpacing · = true) (gap ++ more) := by
  obtain ⟨first, rest, rfl⟩ := List.exists_cons_of_ne_nil nonempty
  exact .cons (isSpacing_iff.2 (blank first List.mem_cons_self)) _

theorem fits_gap {after : Text} (bounded : BoundedBy (isSpacing · = false) after) :
    Fits ⟨.whitespace, gap⟩ after := by
  obtain ⟨first, rest, rfl⟩ := List.exists_cons_of_ne_nil nonempty
  exact .spacing (fun c member => isSpacing_iff.2 (blank c member)) bounded

/-- What is left out between two lexemes can be replaced by the gap. -/
theorem chain_intersperse {lexemes : List Lexeme} (chain : Chain lexemes []) :
    Chain ((meaningful lexemes).intersperse ⟨.whitespace, gap⟩) [] := by
  induction lexemes with
  | nil => trivial
  | cons lexeme later ih =>
    have rest := ih chain.2
    cases trivia : lexeme.kind.isTrivia with
    | true =>
      rw [meaningful_cons_of_trivia trivia]
      exact rest
    | false =>
      rw [meaningful_cons trivia]
      cases others : meaningful later with
      | nil => exact chain_singleton.2 chain.1.alone
      | cons next more =>
        rw [others] at rest
        obtain ⟨member, means⟩ : next ∈ later ∧ next.kind.isTrivia = false := by
          have found : next ∈ meaningful later := by simp [others]
          simpa [meaningful] using found
        obtain ⟨_, fits⟩ := chain.2.exists_fits next member
        -- Another lexeme follows, so this one is not a literal that lacks its closing quote.
        have followed : later.flatMap text ++ [] ≠ [] := by
          rw [List.append_nil, Ne, List.flatMap_eq_nil_iff]
          exact fun none => fits.text_ne_nil (none next member)
        obtain ⟨beyond, front⟩ : ∃ beyond,
            ((next :: more).intersperse ⟨.whitespace, gap⟩).flatMap text = next.text ++ beyond := by
          cases more <;> exact ⟨_, rfl⟩
        rw [List.intersperse_cons_cons]
        refine ⟨?_, ?_, rest⟩
        · rw [List.flatMap_cons, List.append_assoc]
          exact chain.1.before_spacing trivia followed (boundedBy_gap nonempty blank _)
        · rw [front, List.append_assoc]
          exact fits_gap nonempty blank (fits.first_not_spacing means _)

end

end Lexeme

/-- The texts of the tokens that mean something, with a gap between any two of them. -/
def respaced (gap src : Text) : Text :=
  Text.joinWith gap ((significant (tokenize src)).map (Token.text src))

theorem map_significant (src : Text) :
    (significant (tokenize src)).map (ofToken src) = meaningful (ofText src) := by
  rw [← Cursor.map_tokenize, meaningful, List.filter_map]
  rfl

theorem map_significant_respaced {gap : Text} (nonempty : gap ≠ []) (blank : ∀ c ∈ gap, c ∈ spacing)
    (src : Text) :
    (significant (tokenize (respaced gap src))).map (ofToken (respaced gap src)) =
      (significant (tokenize src)).map (ofToken src) := by
  have means : ∀ lexeme ∈ meaningful (ofText src), lexeme.kind.isTrivia = false := by
    simp [meaningful]
  have whole : ((meaningful (ofText src)).intersperse ⟨.whitespace, gap⟩).flatMap text =
      respaced gap src := by
    rw [flatMap_intersperse, ← map_significant, List.map_map]
    rfl
  have lexemes := (chain_intersperse nonempty blank (chain_ofText src)).ofText_eq
  rw [whole] at lexemes
  rw [map_significant, map_significant, lexemes, meaningful_intersperse gap means]

def ReadError.about : ReadError → Token → ReadError
  | unexpected expected _, token => unexpected expected token
  | unsupported _, token => unsupported token
  | tooDeep _, token => tooDeep token

theorem token_of_count {opened : Nat} {token : Token} {fault : ReadError}
    (failed : count opened token = .error fault) : fault.token = token := by
  unfold count at failed
  repeat' split at failed
  all_goals first
    | obtain rfl := Except.error.inj failed
      rfl
    | cases failed

/-- A token is counted for its kind alone. -/
theorem count_of_kind {token other : Token} (kind : other.kind = token.kind) (opened : Nat) :
    count opened other = (count opened token).mapError (ReadError.about · other) := by
  unfold count
  rw [kind]
  repeat' split
  all_goals rfl

/-- Tokens with the same kinds are both counted without a fault, or have the same fault at the same
place. -/
theorem tally_of_kinds {tokens others : List Token}
    (kinds : others.map Token.kind = tokens.map Token.kind) (opened : Nat) :
    ((tally opened tokens).fault? = none ∧ (tally opened others).fault? = none) ∨
      ∃ (index : Nat) (fault : ReadError) (token : Token), (tally opened tokens).fault? = some fault ∧
        (tally opened others).fault? = some (fault.about token) ∧
        tokens[index]? = some fault.token ∧ others[index]? = some token := by
  induction tokens generalizing opened others with
  | nil =>
    obtain rfl : others = [] := by simpa using kinds
    exact .inl ⟨rfl, rfl⟩
  | cons token tokens ih =>
    obtain ⟨other, others, rfl, kind, rest⟩ := List.map_eq_cons_iff.1 kinds
    rw [tally, tally, kind, count_of_kind kind]
    by_cases ended : opened = 0 ∧ token.kind = .endOfInput
    · exact .inl (by simp [ended])
    rw [if_neg ended, if_neg ended]
    cases counted : count opened token with
    | error fault =>
      exact .inr ⟨0, fault, other, rfl, rfl, congrArg some (token_of_count counted).symm, rfl⟩
    | ok later =>
      rcases ih rest later with none | ⟨index, fault, found, facts⟩
      · exact .inl none
      · exact .inr ⟨index + 1, fault, found, facts⟩

def scanned (src : Text) : List Token := significant (tokenize src) ++ [endToken src]

/-- So each of them has one index. -/
theorem nodup_scanned (src : Text) : (scanned src).Nodup := by
  have tokens : (significant (tokenize src)).Nodup :=
    (tiles_tokenize src).nodup.sublist List.filter_sublist
  refine List.nodup_append.2 ⟨tokens, List.pairwise_singleton _ _, ?_⟩
  rintro token member other last rfl
  obtain rfl := List.mem_singleton.1 last
  exact (kind_of_mem_tokenize (significant_subset _ member)).2 rfl

theorem parse_eq_error_iff_tally {src : Text} {error : ReadError} :
    parse src = .error error ↔ (Tally.ofText src).fault? = some error := by
  rw [parse_eq_error_iff, Tally.ofText_eq_feed]

theorem exists_parse_of_tally {src : Text} (none : (Tally.ofText src).fault? = none) :
    ∃ nodes, parse src = .ok nodes := by
  rcases parsed : parse src with error | nodes
  · rw [parse_eq_error_iff_tally, none] at parsed
    cases parsed
  · exact ⟨nodes, rfl⟩

section

variable {src other : Text}
  (same : (significant (tokenize other)).map (ofToken other) =
    (significant (tokenize src)).map (ofToken src))

include same

/-- The tokens that mean something settle the trees and what they render to. -/
theorem outlines_of_significant {nodes nodes' : List Node} (read : parse src = .ok nodes)
    (read' : parse other = .ok nodes') :
    nodes'.map (Node.outline other) = nodes.map (Node.outline src) ∧
      ∃ text, render src = .ok text ∧ render other = .ok text := by
  have outlines := (derives_of_parse read).1.outline_eq (derives_of_parse read').1 same
  obtain ⟨texts, rendered, text⟩ := render_of_parse read
  obtain ⟨texts', rendered', text'⟩ := render_of_parse read'
  rw [Node.renderAll_eq_of_outline outlines, rendered] at rendered'
  obtain rfl := Except.ok.inj rendered'
  exact ⟨outlines, _, text, text'⟩

/-- They settle, too, whether there is an error, and which of them it is about. -/
theorem faults_of_significant :
    ((∃ nodes, parse src = .ok nodes) ∧ ∃ nodes, parse other = .ok nodes) ∨
      ∃ error token, parse src = .error error ∧ parse other = .error (error.about token) ∧
        token.kind = error.token.kind ∧ error.token ∈ scanned src ∧ token ∈ scanned other ∧
        (scanned other).idxOf token = (scanned src).idxOf error.token := by
  have kinds : (scanned other).map Token.kind = (scanned src).map Token.kind := by
    have before := congrArg (List.map Lexeme.kind) same
    rw [List.map_map, List.map_map] at before
    rw [scanned, scanned, List.map_append, List.map_append]
    exact congrArg (· ++ [TokenKind.endOfInput]) before
  rcases tally_of_kinds kinds 0 with ⟨none, none'⟩ | ⟨index, error, token, fault, fault', at_, at'⟩
  · exact .inl ⟨exists_parse_of_tally none, exists_parse_of_tally none'⟩
  · have kind : token.kind = error.token.kind := by
      have kinds := congrArg (·[index]?) kinds
      simpa [List.getElem?_map, at_, at'] using kinds
    obtain ⟨within, rfl⟩ := List.getElem?_eq_some_iff.1 at'
    obtain ⟨before, here⟩ := List.getElem?_eq_some_iff.1 at_
    refine .inr ⟨error, _, parse_eq_error_iff_tally.2 fault, parse_eq_error_iff_tally.2 fault', kind,
      List.mem_of_getElem? at_, List.getElem_mem within, ?_⟩
    rw [← here, (nodup_scanned other).idxOf_getElem, (nodup_scanned src).idxOf_getElem]

end

/-- A source with the same gap between any two tokens that mean something, and nothing else between
them, has the same such tokens. It is read to the same trees and renders to the same text, or it fails
with the same error about the token of the same index, be it the end of input. -/
theorem parse_respaced {gap : Text} (nonempty : gap ≠ []) (blank : ∀ c ∈ gap, c ∈ spacing)
    (src : Text) :
    let other := respaced gap src
    (significant (tokenize other)).map (ofToken other) =
      (significant (tokenize src)).map (ofToken src) ∧
    ((∃ nodes nodes' text, parse src = .ok nodes ∧ parse other = .ok nodes' ∧
        nodes'.map (Node.outline other) = nodes.map (Node.outline src) ∧
        render src = .ok text ∧ render other = .ok text) ∨
      ∃ error token, parse src = .error error ∧ parse other = .error (error.about token) ∧
        token.kind = error.token.kind ∧ error.token ∈ scanned src ∧ token ∈ scanned other ∧
        (scanned other).idxOf token = (scanned src).idxOf error.token) := by
  intro other
  have same := map_significant_respaced nonempty blank src
  refine ⟨same, ?_⟩
  rcases faults_of_significant same with ⟨⟨nodes, read⟩, nodes', read'⟩ | fault
  · obtain ⟨outlines, text, rendered, rendered'⟩ := outlines_of_significant same read read'
    exact .inl ⟨nodes, nodes', text, read, read', outlines, rendered, rendered'⟩
  · exact .inr fault

/-- A literal and a word that touch, a mark before a word and a comment. -/
theorem parse_respaced_touching :
    let gap := "\t\n".toList
    let src := "(\"a\"b ;c\n&x)".toList
    gap ≠ [] ∧ (∀ c ∈ gap, c ∈ spacing) ∧
      respaced gap src = "(\t\n\"a\"\t\nb\t\n&\t\nx\t\n)".toList ∧
      ∃ text, render src = .ok text ∧ render (respaced gap src) = .ok text := by
  intro gap src
  have nonempty : gap ≠ [] := by decide
  have blank : ∀ c ∈ gap, c ∈ spacing := by simp [gap, spacing]
  refine ⟨nonempty, blank, rfl, ?_⟩
  rcases (parse_respaced nonempty blank src).2 with
    ⟨_, _, text, -, -, -, rendered⟩ | ⟨error, _, failed, -⟩
  · exact ⟨text, rendered⟩
  · have read : (Tally.ofText src).fault? = none := rfl
    rw [parse_eq_error_iff_tally, read] at failed
    cases failed

end SexprCall
