import SexprCall.Renderer
import SexprCall.Proofs.Grammar.Parsing
import SexprCall.Proofs.Render.Decoding

/-! Rendering loses nothing of plain sources: their text of calls tells which tokens they are made of.
It may lose the rest of a form with a literal or an empty list as its head, and where empty lists
stand outside of all forms. -/
namespace SexprCall

open Grammar

namespace Lexeme

/-- Only a literal that is not closed depends on the end of the text. -/
theorem Fits.steady {lexeme : Lexeme} {after : Text} (fits : Fits lexeme after) (more : after ≠ [])
    (kind : lexeme.kind ∈ atomKinds) : Steady lexeme := by
  intro rest bounded
  cases fits with
  | comment | spacing => simp [atomKinds, symbolKinds, literalKinds] at kind
  | single single => exact .single single
  | word starts inside => exact .word starts inside bounded
  | closed quotes inside => exact .closed quotes inside
  | unclosed => exact absurd rfl more

theorem isBlank_of_single? {c : Char} {kind : TokenKind} (single : single? c = some kind) :
    Text.isBlank c = false := by
  unfold single? at single
  split at single <;> first | rfl | simp at single

/-- Stripping takes nothing from a literal. -/
theorem Fits.trimmed_of_literal {lexeme : Lexeme} {after : Text} (fits : Fits lexeme after)
    (more : after ≠ []) (literal : lexeme.kind ∈ literalKinds) : lexeme.text.Trimmed := by
  cases fits with
  | comment | spacing => simp [literalKinds] at literal
  | @single c _ _ single =>
    have solid := isBlank_of_single? single
    exact .of_ends rfl rfl solid solid
  | @word first body =>
    revert literal
    unfold classify
    split <;> simp [literalKinds]
  | @closed quote body _ quotes =>
    obtain rfl : quote = '\x22' := by simpa [literalQuotes, Text.quoteMark] using quotes
    exact .of_ends rfl List.getLast?_concat rfl rfl
  | unclosed => exact absurd rfl more

end Lexeme

/-- A source that is read goes on after each of its atoms. -/
theorem exists_fits_of_parse {src : Text} {nodes : List Node} (read : parse src = .ok nodes)
    {token : Token} (member : token ∈ significant (tokenize src)) (atom : token.kind ∈ atomKinds) :
    ∃ after, after ≠ [] ∧ (Lexeme.ofToken src token).Fits after := by
  obtain ⟨derived, shape⟩ := derives_of_parse read
  obtain ⟨among, means⟩ := List.mem_filter.1 member
  obtain ⟨before, after, split⟩ := List.append_of_mem among
  refine ⟨_, ?_, fits_of_tokenize split⟩
  cases after with
  | nil =>
    intro _
    have last : (significant (tokenize src)).getLast? = some token := by
      rw [split, significant_append, significant_cons (by simpa using means), significant_nil,
        List.getLast?_concat]
    have closes := derived.kind_last (fun node member => (shape node member).1) token last
    exact Derives.not_mem_atomKinds_closeParen (closes ▸ atom)
  | cons later after =>
    have text : later.text src ≠ [] := by
      apply text_ne_nil_of_mem_tokenize
      simp [split]
    exact List.append_ne_nil_of_left_ne_nil text _

namespace Node

def isCallee : Node → Bool
  | form .. | atom .symbol .. => true
  | atom .literal .. | emptyList _ | endOfInput | foreign _ => false

theorem isCallee_outline (src : Text) (node : Node) :
    (node.outline src).isCallee = node.isCallee := by
  cases node with
  | atom kind => cases kind <;> rfl
  | _ => rfl

/-- No form in the node has a literal or an empty list as its head, and no symbol has a blank at an
end. -/
inductive Plain (src : Text) : Node → Prop where
  | symbol {token span} : (token.text src).Trimmed → Plain src (.atom .symbol token span)
  | literal {token span} : Plain src (.atom .literal token span)
  | emptyList {span} : Plain src (.emptyList span)
  | form {head tail span} : head.isCallee = true → Plain src head →
      (∀ cell ∈ tail, Plain src cell) → Plain src (.form head tail span)

end Node

/-- A source with these nodes, all of them plain, and without empty lists outside of all forms. -/
structure Plain (src : Text) (nodes : List Node) : Prop where
  read : parse src = .ok nodes
  forms : ∀ node ∈ nodes, ∀ span, node ≠ .emptyList span
  plain : ∀ node ∈ nodes, node.Plain src

/-- Plain nodes have plain outlines if the atoms they were read from go on as they should. -/
theorem Grammar.Derives.plain_outline {src : Text} {nodes : List Node} {tokens : List Token}
    (derived : Derives nodes tokens)
    (atoms : ∀ token ∈ tokens, token.kind ∈ atomKinds →
      ∃ after, after ≠ [] ∧ (Lexeme.ofToken src token).Fits after)
    (plain : ∀ node ∈ nodes, node.Plain src) : ∀ node ∈ nodes, (node.outline src).Plain := by
  -- Not by `induction_cells`: the head of a form has to meet more than its tail.
  induction derived with
  | nil => simp
  | @symbol token nodes tokens kind _ ih =>
    rw [List.forall_mem_cons] at atoms plain ⊢
    refine ⟨?_, ih atoms.2 plain.2⟩
    have atom : token.kind ∈ atomKinds := List.mem_append_left _ kind
    obtain ⟨after, more, fits⟩ := atoms.1 atom
    rw [← Node.ofToken_of_symbol kind]
    cases plain.1 with
    | symbol trimmed => exact .atom atom (fits.steady more atom) trimmed
  | @literal token nodes tokens kind _ ih =>
    rw [List.forall_mem_cons] at atoms plain ⊢
    refine ⟨?_, ih atoms.2 plain.2⟩
    have atom : token.kind ∈ atomKinds := List.mem_append_right _ kind
    obtain ⟨after, more, fits⟩ := atoms.1 atom
    rw [← Node.ofToken_of_literal kind]
    exact .atom atom (fits.steady more atom) (fits.trimmed_of_literal more kind)
  | emptyList _ _ _ ih =>
    rw [List.forall_mem_cons, List.forall_mem_cons] at atoms
    rw [List.forall_mem_cons] at plain ⊢
    exact ⟨.emptyList, ih atoms.2.2 plain.2⟩
  | form _ _ _ _ ihInside ih =>
    rw [List.forall_mem_cons, List.forall_mem_append, List.forall_mem_cons] at atoms
    rw [List.forall_mem_cons] at plain ⊢
    obtain ⟨-, inside, -, later⟩ := atoms
    refine ⟨?_, ih later plain.2⟩
    cases plain.1 with
    | form callee head tail =>
      have cells := ihInside inside (List.forall_mem_cons.2 ⟨head, tail⟩)
      rw [List.forall_mem_cons] at cells
      rw [Node.outline, Node.outlineAll_eq_map]
      refine .form (by rwa [Node.isCallee_outline]) cells.1 fun cell member => ?_
      obtain ⟨node, among, rfl⟩ := List.mem_map.1 member
      exact cells.2 node among

namespace Plain

variable {src : Text} {nodes : List Node}

theorem plain_outline (plain : Plain src nodes) :
    ∀ outline ∈ nodes.map (Node.outline src), outline.Plain := by
  intro outline member
  obtain ⟨node, among, rfl⟩ := List.mem_map.1 member
  obtain ⟨derived, -⟩ := derives_of_parse plain.read
  exact derived.plain_outline (fun token => exists_fits_of_parse plain.read) plain.plain node among

theorem startsLine_outline (plain : Plain src nodes) :
    ∀ outline ∈ nodes.map (Node.outline src), outline.startsLine = true := by
  intro outline member
  have plainOutline := plain.plain_outline outline member
  obtain ⟨node, among, rfl⟩ := List.mem_map.1 member
  have shape := ((derives_of_parse plain.read).2 node among).1
  cases node with
  | form head tail span =>
    exact plainOutline.isAtom_innermost (by simp [Node.outline])
  | emptyList span => exact absurd rfl (plain.forms _ among span)
  | atom | endOfInput | foreign => simp [Node.isParenthesized] at shape

/-- A plain source renders, to the texts of its nodes in a row. -/
theorem render (plain : Plain src nodes) :
    SexprCall.render src = .ok ((nodes.map (Node.outline src)).map Outline.text).flatten := by
  have texts : Node.renderAll src nodes = .ok ((nodes.map (Node.outline src)).map Outline.text) := by
    rw [← Outline.renderAll_outlineAll, Node.outlineAll_eq_map]
    exact Outline.renderAll_of_render fun outline member =>
      (plain.plain_outline outline member).sound.renders.1
  have read : (Reader.ofText src).readAll.result = .ok nodes := plain.read
  simp only [SexprCall.render, Renderer.render, Renderer.ofText, read, Renderer.renderNodes, texts]

/-- The tokens that mean something are those of the outlines. -/
theorem lexemes (plain : Plain src nodes) :
    (significant (tokenize src)).map (Lexeme.ofToken src) =
      Outline.lexemesAll (nodes.map (Node.outline src)) := by
  obtain ⟨derived, -⟩ := derives_of_parse plain.read
  exact Outline.lexemes_of_derives derived fun token member => (List.mem_filter.1 member).1

end Plain

/-- Two plain sources with the same text of calls have the same tokens, in kind and text and spacing
and comments aside, and so the same nodes up to spans. -/
theorem render_injective {a b : Text} {nodes others : List Node} (plain : Plain a nodes)
    (plain' : Plain b others) (same : render a = render b) :
    (significant (tokenize a)).map (Lexeme.ofToken a) =
        (significant (tokenize b)).map (Lexeme.ofToken b) ∧
      nodes.map (Node.outline a) = others.map (Node.outline b) := by
  have texts := plain.render.symm.trans (same.trans plain'.render)
  have outlines := Outline.eq_of_flatten_text plain.plain_outline plain'.plain_outline
    plain.startsLine_outline plain'.startsLine_outline (Except.ok.inj texts)
  rw [plain.lexemes, plain'.lexemes, outlines]
  exact ⟨rfl, rfl⟩

/-- A form with a called head and with a form and an empty list as cells, laid out in two ways. -/
theorem render_injective_layout :
    let a := "((f) (g) ())".toList
    let b := "((f) ; call\n(g)())".toList
    ∃ nodes others, Plain a nodes ∧ Plain b others ∧ render a = render b ∧
      nodes.map (Node.outline a) = others.map (Node.outline b) := by
  intro a b
  let word (row col offset : Nat) : Token :=
    ⟨.identifier, ⟨row, col, row, col, offset, offset + 1⟩, 1⟩
  let call (row col offset : Nat) : Node :=
    .form (.atom .symbol (word row (col + 1) (offset + 1)) (word row (col + 1) (offset + 1)).span) []
      ⟨row, col, row, col + 2, offset, offset + 3⟩
  let tree (second : Node) (empty whole : Span) : Node :=
    .form (call 1 2 1) [second, .emptyList empty] whole
  have called (src : Text) (row col offset : Nat)
      (trimmed : ((word row (col + 1) (offset + 1)).text src).Trimmed) :
      (call row col offset).Plain src := .form rfl (.symbol trimmed) (by simp)
  have whole (src : Text) (second : Node) (empty span : Span) (first : (call 1 2 1).Plain src)
      (other : second.Plain src) : (tree second empty span).Plain src :=
    .form rfl first (by simpa using ⟨other, .emptyList⟩)
  have plain : Plain a [tree (call 1 6 5) ⟨1, 10, 1, 11, 9, 11⟩ ⟨1, 1, 1, 12, 0, 12⟩] := by
    refine ⟨by rw [parse_eq_feed]; rfl, by simp [tree], ?_⟩
    rw [List.forall_mem_singleton]
    exact whole _ _ _ _ (called _ _ _ _ (.of_ends rfl rfl rfl rfl))
      (called _ _ _ _ (.of_ends rfl rfl rfl rfl))
  have plain' : Plain b [tree (call 2 1 12) ⟨2, 4, 2, 5, 15, 17⟩ ⟨1, 1, 2, 6, 0, 18⟩] := by
    refine ⟨by rw [parse_eq_feed]; rfl, by simp [tree], ?_⟩
    rw [List.forall_mem_singleton]
    exact whole _ _ _ _ (called _ _ _ _ (.of_ends rfl rfl rfl rfl))
      (called _ _ _ _ (.of_ends rfl rfl rfl rfl))
  have same : render a = render b := by
    rw [plain.render, plain'.render]
    rfl
  exact ⟨_, _, plain, plain', same, (render_injective plain plain' same).2⟩

end SexprCall
