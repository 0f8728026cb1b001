import SexprCall.Proofs.Reader.Feed

/-! The grammar of sources. `Derives` says which tokens a list of nodes stands for, without a reader;
a reader accepts what is derived by nodes that nest no deeper than allowed. -/
namespace SexprCall

namespace Node

mutual

/-- How many forms and empty lists stand inside each other. -/
def depth : Node → Nat
  | form head tail _ => max head.depth (depthAll tail) + 1
  | emptyList _ => 1
  | atom .. | endOfInput | foreign _ => 0

def depthAll : List Node → Nat
  | [] => 0
  | node :: nodes => max node.depth (depthAll nodes)

end

@[simp] theorem depthAll_nil : depthAll [] = 0 := rfl

@[simp] theorem depthAll_cons (node : Node) (nodes : List Node) :
    depthAll (node :: nodes) = max node.depth (depthAll nodes) := rfl

theorem depthAll_le_iff {nodes : List Node} {bound : Nat} :
    depthAll nodes ≤ bound ↔ ∀ node ∈ nodes, node.depth ≤ bound := by
  induction nodes with
  | nil => simp
  | cons node nodes ih => rw [depthAll_cons, Nat.max_le, ih, List.forall_mem_cons]

@[simp] theorem depthAll_append (left right : List Node) :
    depthAll (left ++ right) = max (depthAll left) (depthAll right) := by
  induction left with
  | nil => simp
  | cons node nodes ih => simp [ih, Nat.max_assoc]

@[simp] theorem depthAll_reverse (nodes : List Node) : depthAll nodes.reverse = depthAll nodes := by
  induction nodes with
  | nil => rfl
  | cons node nodes ih => simp [ih, Nat.max_comm]

@[simp] theorem depth_ofCells (cells : List Node) (span : Span) :
    (ofCells cells span).depth = depthAll cells + 1 := by
  cases cells <;> rfl

/-- Outside of all forms there are only forms and empty lists. -/
def isParenthesized : Node → Bool
  | form .. | emptyList _ => true
  | atom .. | endOfInput | foreign _ => false

@[simp] theorem isParenthesized_ofCells (cells : List Node) (span : Span) :
    (ofCells cells span).isParenthesized = true := by
  cases cells <;> rfl

end Node

namespace Grammar

inductive Derives : List Node → List Token → Prop where
  | nil : Derives [] []
  | symbol {token nodes tokens} : token.kind ∈ symbolKinds → Derives nodes tokens →
      Derives (.atom .symbol token token.span :: nodes) (token :: tokens)
  | literal {token nodes tokens} : token.kind ∈ literalKinds → Derives nodes tokens →
      Derives (.atom .literal token token.span :: nodes) (token :: tokens)
  | emptyList {opening closing nodes tokens} : opening.kind = .openParen →
      closing.kind = .closeParen → Derives nodes tokens →
      Derives (.emptyList (opening.span.union closing.span) :: nodes)
        (opening :: closing :: tokens)
  | form {opening head tail inside closing nodes tokens} : opening.kind = .openParen →
      Derives (head :: tail) inside → closing.kind = .closeParen → Derives nodes tokens →
      Derives (.form head tail (opening.span.union closing.span) :: nodes)
        (opening :: (inside ++ closing :: tokens))

namespace Derives

theorem append {nodes more : List Node} {tokens others : List Token}
    (first : Derives nodes tokens) (second : Derives more others) :
    Derives (nodes ++ more) (tokens ++ others) := by
  induction first with
  | nil => exact second
  | symbol kind _ ih => exact .symbol kind ih
  | literal kind _ ih => exact .literal kind ih
  | emptyList opens closes _ ih => exact .emptyList opens closes ih
  | form opens inside closes _ _ ih =>
    simpa using Derives.form opens inside closes ih

/-- Cells between two parentheses make one node. -/
theorem parenthesized {cells nodes : List Node} {inside tokens : List Token}
    {opening closing : Token} (opens : opening.kind = .openParen) (derived : Derives cells inside)
    (closes : closing.kind = .closeParen) (after : Derives nodes tokens) :
    Derives (.ofCells cells (opening.span.union closing.span) :: nodes)
      (opening :: (inside ++ closing :: tokens)) := by
  cases cells with
  | nil =>
    cases derived
    exact .emptyList opens closes after
  | cons head tail => exact .form opens derived closes after

theorem atom {token : Token} {nodes : List Node} {tokens : List Token}
    (kind : token.kind ∈ atomKinds) (after : Derives nodes tokens) :
    Derives (.ofToken token :: nodes) (token :: tokens) := by
  rcases List.mem_append.1 kind with symbol | literal
  · rw [Node.ofToken_of_symbol symbol]
    exact .symbol symbol after
  · rw [Node.ofToken_of_literal literal]
    exact .literal literal after

/-- Induction with one case for all atoms and one for all nodes with parentheses. -/
theorem induction_cells {motive : (nodes : List Node) → (tokens : List Token) →
      Derives nodes tokens → Prop}
    (nil : motive [] [] .nil)
    (atom : ∀ (token : Token) (nodes : List Node) (tokens : List Token)
      (kind : token.kind ∈ atomKinds) (after : Derives nodes tokens),
      motive nodes tokens after → motive _ _ (.atom kind after))
    (parenthesized : ∀ (opening : Token) (cells : List Node) (inside : List Token)
      (closing : Token) (nodes : List Node) (tokens : List Token)
      (opens : opening.kind = .openParen) (derived : Derives cells inside)
      (closes : closing.kind = .closeParen) (after : Derives nodes tokens),
      motive cells inside derived → motive nodes tokens after →
      motive _ _ (.parenthesized opens derived closes after))
    (nodes : List Node) (tokens : List Token) (derived : Derives nodes tokens) :
    motive nodes tokens derived := by
  induction derived with
  | nil => exact nil
  | @symbol token nodes tokens kind after ih =>
    have step := atom token nodes tokens (List.mem_append_left _ kind) after ih
    simpa only [Node.ofToken_of_symbol kind] using step
  | @literal token nodes tokens kind after ih =>
    have step := atom token nodes tokens (List.mem_append_right _ kind) after ih
    simpa only [Node.ofToken_of_literal kind] using step
  | emptyList opens closes after ih =>
    exact parenthesized _ [] [] _ _ _ opens .nil closes after nil ih
  | form opens inside closes after ihInside ih =>
    exact parenthesized _ _ _ _ _ _ opens inside closes after ihInside ih

theorem not_mem_atomKinds_openParen : TokenKind.openParen ∉ atomKinds := by decide

theorem not_mem_atomKinds_closeParen : TokenKind.closeParen ∉ atomKinds := by decide

/-- A derivation does not begin with a closing parenthesis. -/
theorem kind_head {nodes : List Node} {token : Token} {tokens : List Token}
    (derived : Derives nodes (token :: tokens)) : token.kind ≠ .closeParen := by
  cases derived with
  | symbol kind | literal kind =>
    intro closes
    simp [closes, symbolKinds, literalKinds] at kind
  | emptyList opens | form opens => simp [opens]

/-- The last token of nodes with parentheses is a closing one. -/
theorem kind_last {nodes : List Node} {tokens : List Token}
    (derived : Derives nodes tokens) (shape : ∀ node ∈ nodes, node.isParenthesized = true) :
    ∀ token ∈ tokens.getLast?, token.kind = .closeParen := by
  induction nodes, tokens, derived using induction_cells with
  | nil => simp
  | atom token =>
    have parenthesized := shape _ List.mem_cons_self
    simp [Node.ofToken, Node.isParenthesized] at parenthesized
  | parenthesized opening cells inside closing nodes tokens _ _ closes _ _ ih =>
    rw [List.forall_mem_cons] at shape
    intro token last
    rw [← List.cons_append, List.getLast?_append, List.getLast?_cons] at last
    rcases back : tokens.getLast? with _ | other
    · obtain rfl : closing = token := by simpa [back] using last
      exact closes
    · obtain rfl : other = token := by simpa [back] using last
      exact ih shape.2 other back

theorem eq_nil {nodes : List Node} (derived : Derives nodes []) : nodes = [] := by
  cases derived
  rfl

theorem of_atom {token : Token} {nodes : List Node} {tokens : List Token}
    (kind : token.kind ∈ atomKinds) (derived : Derives nodes (token :: tokens)) :
    ∃ later, nodes = .ofToken token :: later ∧ Derives later tokens := by
  cases derived with
  | symbol symbol after => exact ⟨_, by rw [Node.ofToken_of_symbol symbol], after⟩
  | literal literal after => exact ⟨_, by rw [Node.ofToken_of_literal literal], after⟩
  | emptyList opens | form opens => exact absurd (opens ▸ kind) not_mem_atomKinds_openParen

theorem of_openParen {opening : Token} {nodes : List Node} {tokens : List Token}
    (opens : opening.kind = .openParen) (derived : Derives nodes (opening :: tokens)) :
    ∃ cells inside closing later after, tokens = inside ++ closing :: after ∧
      Derives cells inside ∧ closing.kind = .closeParen ∧ Derives later after ∧
      nodes = .ofCells cells (opening.span.union closing.span) :: later := by
  cases derived with
  | symbol kind | literal kind => simp [opens, symbolKinds, literalKinds] at kind
  | emptyList _ closes after => exact ⟨[], [], _, _, _, rfl, .nil, closes, after, rfl⟩
  | form _ inside closes after => exact ⟨_ :: _, _, _, _, _, rfl, inside, closes, after, rfl⟩

/-- Nothing more can be derived here: there are no tokens left, or a closing parenthesis is next. -/
def Ends (rest : List Token) : Prop := ∀ token ∈ rest.head?, token.kind = .closeParen

theorem ends_nil : Ends [] := by simp [Ends]

theorem ends_cons {token : Token} {rest : List Token} :
    Ends (token :: rest) ↔ token.kind = .closeParen := by
  simp [Ends]

/-- Two derivations from the same tokens that each go on to an end are one. -/
theorem unique_of_append {nodes others : List Node} {tokens tokens' rest rest' : List Token}
    (first : Derives nodes tokens) (second : Derives others tokens')
    (same : tokens ++ rest = tokens' ++ rest') (ends : Ends rest) (ends' : Ends rest') :
    nodes = others ∧ rest = rest' := by
  induction nodes, tokens, first using induction_cells generalizing others tokens' rest rest' with
  | nil =>
    cases tokens' with
    | nil => exact ⟨second.eq_nil.symm, same⟩
    | cons token tokens' =>
      obtain rfl : rest = token :: (tokens' ++ rest') := same
      exact absurd (ends_cons.1 ends) second.kind_head
  | atom token nodes tokens kind _ ih =>
    cases tokens' with
    | nil =>
      obtain rfl : token :: (tokens ++ rest) = rest' := same
      exact absurd (ends_cons.1 ends' ▸ kind) not_mem_atomKinds_closeParen
    | cons token' tokens' =>
      obtain ⟨rfl, left⟩ := List.cons.inj same
      obtain ⟨later, rfl, after⟩ := second.of_atom kind
      obtain ⟨rfl, rest⟩ := ih after left ends ends'
      exact ⟨rfl, rest⟩
  | parenthesized opening cells inside closing nodes tokens opens _ closes _ ihInside ih =>
    cases tokens' with
    | nil =>
      obtain rfl : opening :: (inside ++ closing :: tokens ++ rest) = rest' := same
      simp [ends_cons, opens] at ends'
    | cons opening' tokens' =>
      obtain ⟨rfl, left⟩ : opening = opening' ∧
          inside ++ closing :: (tokens ++ rest) = tokens' ++ rest' := by simpa using same
      obtain ⟨cells', inside', closing', later, after', rfl, derived', closes', after, rfl⟩ :=
        second.of_openParen opens
      rw [List.append_assoc] at left
      obtain ⟨rfl, closing⟩ := ihInside derived' left (ends_cons.2 closes) (ends_cons.2 closes')
      obtain ⟨rfl, beyond⟩ := List.cons.inj closing
      obtain ⟨rfl, rest⟩ := ih after beyond ends ends'
      exact ⟨rfl, rest⟩

/-- Tokens leave no choice between nodes, however deep these nest. -/
theorem unique {nodes others : List Node} {tokens : List Token} (first : Derives nodes tokens)
    (second : Derives others tokens) : nodes = others :=
  (unique_of_append first second rfl ends_nil ends_nil).1

end Derives
end Grammar
end SexprCall
