import SexprCall.Proofs.Render.Success
import SexprCall.Proofs.Text.Balance

/-! Parentheses in rendered text. Where no literal holds one they are balanced, and the text nests no
deeper than the forms it was rendered from. -/
namespace SexprCall

open Grammar

/-- Among atoms only literals can hold parentheses. -/
theorem Lexeme.Fits.unbracketed {lexeme : Lexeme} {after : Text} (fits : Fits lexeme after)
    (atom : lexeme.kind ∈ atomKinds)
    (literal : lexeme.kind = .literal → lexeme.text.Unbracketed) : lexeme.text.Unbracketed := by
  cases fits with
  | comment | spacing => simp [atomKinds, symbolKinds, literalKinds] at atom
  | @single c _ _ single =>
    have apart {paren : Char} {kind : TokenKind} (known : single? paren = some kind)
        (other : kind ∉ atomKinds) : paren ∉ [c] := by
      intro member
      obtain rfl : paren = c := List.mem_singleton.1 member
      obtain rfl := Option.some.inj (known.symm.trans single)
      exact other atom
    exact ⟨@apart '(' _ rfl (by decide), @apart ')' _ rfl (by decide)⟩
  | @word first body _ starts inside =>
    have apart {paren : Char} (single : single? paren ≠ none) (ends : endsWord paren = true) :
        paren ∉ first :: body := by
      intro member
      rcases List.mem_cons.1 member with rfl | member
      · exact single starts.2.1
      · simp [inside paren member] at ends
    exact ⟨apart (by decide) (by decide), apart (by decide) (by decide)⟩
  | closed | unclosed => exact literal rfl

theorem unbracketed_of_mem_tokenize {src : Text} {token : Token}
    (clear : ∀ token ∈ tokenize src, token.kind = .literal → (token.text src).Unbracketed)
    (member : token ∈ tokenize src) (atom : token.kind ∈ atomKinds) :
    (token.text src).Unbracketed := by
  obtain ⟨after, fits⟩ := exists_fits_of_mem_tokenize member
  exact fits.unbracketed atom (clear token member)

namespace Node

theorem exists_render_of_mem_renderAll {src : Text} {nodes : List Node} {texts : List Text}
    (rendered : renderAll src nodes = .ok texts) {text : Text} (member : text ∈ texts) :
    ∃ node ∈ nodes, node.render src [] = .ok text := by
  have among : Except.ok text ∈ nodes.map (render src · []) := by
    rw [map_render_of_renderAll rendered]
    exact List.mem_map_of_mem member
  exact List.mem_map.1 among

theorem balanced_arguments {depth : Nat} {rendered : List Text}
    (balanced : ∀ text ∈ rendered, text.Balanced depth) :
    (arguments rendered).Balanced (depth + 1) :=
  (Text.Balanced.join balanced).strip.parenthesized

theorem balanced_atom {src before text : Text} {kind : AtomKind} {token : Token} {span : Span}
    (clear : (token.text src).Unbracketed) (rendered : (atom kind token span).render src before = .ok text)
    (depth : Nat) : text.Balanced depth := by
  obtain rfl := Except.ok.inj rendered
  exact .of_unbracketed clear depth

/-- A form adds a pair of parentheses around its arguments, and none around its head. -/
theorem balanced_form {src before text : Text} {head : Node} {tail : List Node} {span : Span}
    {depth : Nat} (rendered : (form head tail span).render src before = .ok text)
    (front : before.Balanced (depth + 1))
    (headBalanced : ∀ callee, head.render src before = .ok callee → callee.Balanced (depth + 1))
    (tailBalanced : ∀ cell ∈ tail, ∀ text, cell.render src [] = .ok text → text.Balanced depth) :
    text.Balanced (depth + 1) := by
  have called {texts : List Text} (all : renderAll src tail = .ok texts) :
      (arguments texts).Balanced (depth + 1) := by
    refine balanced_arguments fun text member => ?_
    obtain ⟨cell, among, one⟩ := exists_render_of_mem_renderAll all member
    exact tailBalanced cell among text one
  have line {text : Text} (balanced : text.Balanced (depth + 1)) :
      (before ++ '\n' :: text).Balanced (depth + 1) := by
    have feed : Text.Balanced (depth + 1) ['\n'] := .of_unbracketed (by decide) _
    exact front.append (feed.append balanced)
  cases head with
  | form =>
    rw [render] at rendered
    obtain ⟨callee, first, rendered⟩ := exists_of_bind_ok rendered
    obtain ⟨texts, all, rendered⟩ := exists_of_bind_ok rendered
    obtain rfl := Except.ok.inj rendered
    exact (headBalanced callee first).append (called all)
  | atom kind token =>
    cases kind with
    | literal =>
      obtain rfl := Except.ok.inj rendered
      exact line (headBalanced _ rfl)
    | symbol =>
      rw [render] at rendered
      obtain ⟨texts, all, rendered⟩ := exists_of_bind_ok rendered
      obtain rfl := Except.ok.inj rendered
      exact (line (headBalanced _ rfl)).append (called all)
  | emptyList =>
    obtain rfl := Except.ok.inj rendered
    exact front.append (headBalanced _ rfl)
  | endOfInput | foreign =>
    obtain rfl := Except.ok.inj rendered
    exact front

end Node

/-- Nodes render to balanced text, after balanced text, if they are derived by tokens without parentheses
in their atoms. -/
theorem Grammar.Derives.balanced {src : Text} {nodes : List Node} {tokens : List Token}
    (derived : Derives nodes tokens)
    (clear : ∀ token ∈ tokens, token.kind ∈ atomKinds → (token.text src).Unbracketed) :
    ∀ node ∈ nodes, ∀ before text bound, node.render src before = .ok text → node.depth ≤ bound →
      before.Balanced bound → text.Balanced bound := by
  -- Not by `induction_cells`: a form and an empty list render differently.
  induction derived with
  | nil => simp
  | symbol kind _ ih =>
    rw [List.forall_mem_cons] at clear ⊢
    refine ⟨fun before text bound rendered _ _ => ?_, ih clear.2⟩
    exact Node.balanced_atom (clear.1 (List.mem_append_left _ kind)) rendered bound
  | literal kind _ ih =>
    rw [List.forall_mem_cons] at clear ⊢
    refine ⟨fun before text bound rendered _ _ => ?_, ih clear.2⟩
    exact Node.balanced_atom (clear.1 (List.mem_append_right _ kind)) rendered bound
  | emptyList _ _ _ ih =>
    rw [List.forall_mem_cons, List.forall_mem_cons] at clear
    refine List.forall_mem_cons.2 ⟨fun before text bound rendered shallow _ => ?_, ih clear.2.2⟩
    obtain rfl := Except.ok.inj rendered
    have pair : Text.Balanced 1 ['(', ')'] := .parenthesized (.nil 0)
    exact pair.mono shallow
  | @form _ head tail _ _ _ _ _ _ _ _ ihInside ih =>
    rw [List.forall_mem_cons, List.forall_mem_append, List.forall_mem_cons] at clear
    obtain ⟨-, inside, -, later⟩ := clear
    obtain ⟨headBalanced, tailBalanced⟩ := List.forall_mem_cons.1 (ihInside inside)
    refine List.forall_mem_cons.2 ⟨fun before text bound rendered shallow front => ?_, ih later⟩
    obtain ⟨depth, rfl⟩ := Nat.exists_eq_add_one.2 (Nat.lt_of_lt_of_le (Nat.succ_pos _) shallow)
    rw [Node.depth, Nat.add_le_add_iff_right, Nat.max_le, Node.depthAll_le_iff] at shallow
    refine Node.balanced_form rendered front ?_ ?_
    · intro callee called
      exact headBalanced before callee _ called (Nat.le_succ_of_le shallow.1) front
    · intro cell member text one
      exact tailBalanced cell member [] text depth one (shallow.2 cell member)
        (.nil depth)

/-- A source that is read and whose literals hold no parentheses renders to a text in which parentheses
are balanced. It nests no deeper than the forms and empty lists of the source, which is not deeper than
128. -/
theorem render_balanced {src : Text} {nodes : List Node} (read : parse src = .ok nodes)
    (clear : ∀ token ∈ tokenize src, token.kind = .literal → (token.text src).Unbracketed) :
    ∃ text, render src = .ok text ∧ text.Balanced (Node.depthAll nodes) ∧
      Node.depthAll nodes ≤ 128 := by
  obtain ⟨derived, shape⟩ := derives_of_parse read
  have atoms (token : Token) (member : token ∈ significant (tokenize src)) :=
    unbracketed_of_mem_tokenize clear (significant_subset _ member)
  obtain ⟨texts, all, rendered⟩ := render_of_parse read
  refine ⟨_, rendered, .flatten fun text member => ?_, ?_⟩
  · obtain ⟨node, among, one⟩ := Node.exists_render_of_mem_renderAll all member
    exact derived.balanced atoms node among [] text _ one
      (Node.depthAll_le_iff.1 (Nat.le_refl _) node among) (.nil _)
  · exact Node.depthAll_le_iff.2 fun node member => (shape node member).2

/-- A form as the head adds no depth; an empty list inside of arguments does. -/
theorem render_balanced_chain :
    let src := "((f \"x\") (g ()))".toList
    ∃ nodes text, parse src = .ok nodes ∧
      (∀ token ∈ tokenize src, token.kind = .literal → (token.text src).Unbracketed) ∧
      render src = .ok text ∧ text.Balanced 3 ∧ Node.depthAll nodes = 3 := by
  intro src
  let place (start stop : Nat) : Span := ⟨1, start + 1, 1, stop, start, stop⟩
  let leaf (kind : TokenKind) (start stop : Nat) : Node :=
    .ofToken ⟨kind, place start stop, stop - start⟩
  let callee : Node := .form (leaf .identifier 2 3) [leaf .literal 4 7] (place 1 8)
  let argument : Node := .form (leaf .identifier 10 11) [.emptyList (place 12 14)] (place 9 15)
  have read : parse src = .ok [.form callee [argument] (place 0 16)] := by
    rw [parse_eq_feed]
    rfl
  have clear : ∀ token ∈ tokenize src, token.kind = .literal → (token.text src).Unbracketed := by
    decide
  obtain ⟨text, rendered, balanced, -⟩ := render_balanced read clear
  exact ⟨_, text, read, clear, rendered, balanced, rfl⟩

end SexprCall
