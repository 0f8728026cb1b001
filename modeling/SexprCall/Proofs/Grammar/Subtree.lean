import SexprCall.Proofs.Grammar.Derivation

/-! Nodes inside other nodes. Each of them nests no deeper than the outer node, and a part of the outer
node's tokens derives it. -/
namespace SexprCall

namespace Node

/-- The place of a node; for the end of input, the span of no part of the source. -/
def span : Node → Span
  | form _ _ span | atom _ _ span | emptyList span => span
  | endOfInput | foreign _ => {}

theorem at?_cons_eq_some_iff {node inner : Node} {step : Step} {path : List Step} :
    node.at? (step :: path) = some inner ↔
      ∃ child, node.child? step = some child ∧ child.at? path = some inner :=
  Option.bind_eq_some_iff

/-- There is nothing inside a node that is no form. -/
theorem eq_of_at? {node inner : Node} {path : List Step} (leaf : ∀ step, node.child? step = none)
    (within : node.at? path = some inner) : inner = node := by
  cases path with
  | nil => exact (Option.some.inj within).symm
  | cons step path =>
    obtain ⟨child, found, -⟩ := at?_cons_eq_some_iff.1 within
    rw [leaf step] at found
    cases found

theorem mem_of_child?_ofCells {cells : List Node} {span : Span} {step : Step} {child : Node}
    (found : (ofCells cells span).child? step = some child) : child ∈ cells := by
  cases cells with
  | nil => cases found
  | cons head tail =>
    cases step with
    | head =>
      obtain rfl : head = child := Option.some.inj found
      exact List.mem_cons_self
    | tail index => exact List.mem_cons_of_mem head (List.mem_of_getElem? found)

theorem depth_lt_of_child? {node child : Node} {step : Step}
    (found : node.child? step = some child) : child.depth < node.depth := by
  cases node with
  | form head tail span =>
    have cells := @mem_of_child?_ofCells (head :: tail) span _ _ found
    have bound : child.depth ≤ depthAll (head :: tail) :=
      depthAll_le_iff.1 (Nat.le_refl _) child cells
    exact Nat.lt_succ_of_le bound
  | atom | emptyList | endOfInput | foreign => cases step <;> cases found

theorem depth_le_of_at? {node inner : Node} {path : List Step}
    (within : node.at? path = some inner) : inner.depth ≤ node.depth := by
  induction path generalizing node with
  | nil =>
    obtain rfl : node = inner := Option.some.inj within
    exact Nat.le_refl _
  | cons step path ih =>
    obtain ⟨child, found, rest⟩ := at?_cons_eq_some_iff.1 within
    exact Nat.le_trans (ih rest) (Nat.le_of_lt (depth_lt_of_child? found))

end Node

namespace Grammar.Derives

open Node

/-- The tokens of a node inside others stand in a row among theirs. -/
theorem exists_of_at? {nodes : List Node} {tokens : List Token} (derived : Derives nodes tokens)
    {node inner : Node} {path : List Step} (member : node ∈ nodes)
    (within : node.at? path = some inner) :
    ∃ before middle after, tokens = before ++ (middle ++ after) ∧ Derives [inner] middle := by
  induction nodes, tokens, derived using induction_cells generalizing node path with
  | nil => cases member
  | atom token nodes tokens kind _ ih =>
    rcases List.mem_cons.1 member with rfl | later
    · obtain rfl : inner = ofToken token := eq_of_at? (fun step => by cases step <;> rfl) within
      exact ⟨[], [token], tokens, rfl, .atom kind .nil⟩
    · obtain ⟨before, middle, after, rfl, derives⟩ := ih later within
      exact ⟨token :: before, middle, after, rfl, derives⟩
  | parenthesized opening cells inside closing nodes tokens opens derived closes _ ihInside ih =>
    rcases List.mem_cons.1 member with rfl | later
    · cases path with
      | nil =>
        obtain rfl := Option.some.inj within
        exact ⟨[], opening :: (inside ++ [closing]), tokens, by simp,
          .parenthesized opens derived closes .nil⟩
      | cons step path =>
        obtain ⟨child, found, rest⟩ := at?_cons_eq_some_iff.1 within
        obtain ⟨before, middle, after, rfl, derives⟩ := ihInside (mem_of_child?_ofCells found) rest
        exact ⟨opening :: before, middle, after ++ closing :: tokens, by simp, derives⟩
    · obtain ⟨before, middle, after, rfl, derives⟩ := ih later within
      exact ⟨opening :: (inside ++ closing :: before), middle, after, by simp, derives⟩

/-- A form or an empty list extends from its opening parenthesis to its closing one. -/
theorem exists_parentheses {node : Node} {tokens : List Token} (derived : Derives [node] tokens)
    (parenthesized : node.isParenthesized = true) :
    ∃ opening inside closing, tokens = opening :: (inside ++ [closing]) ∧
      opening.kind = .openParen ∧ closing.kind = .closeParen ∧
      node.span = opening.span.union closing.span := by
  cases derived with
  | symbol | literal => cases parenthesized
  | emptyList opens closes after =>
    cases after
    exact ⟨_, [], _, rfl, opens, closes, rfl⟩
  | form opens inside closes after =>
    cases after
    exact ⟨_, _, _, rfl, opens, closes, rfl⟩

end Grammar.Derives
end SexprCall
