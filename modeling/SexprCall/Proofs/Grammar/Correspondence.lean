import SexprCall.Proofs.Node.Outline
import SexprCall.Proofs.Reader.Shift

/-! Derivations from tokens that correspond to each other. Tokens of another source with the same kinds
and texts derive nodes with the same outlines; moved tokens derive the nodes moved. -/
namespace SexprCall

namespace Node

theorem outline_ofCells {src other : Text} {cells others : List Node}
    (same : others.map (outline other) = cells.map (outline src)) (span span' : Span) :
    (ofCells others span').outline other = (ofCells cells span).outline src := by
  cases cells with
  | nil =>
    obtain rfl : others = [] := by simpa using same
    rfl
  | cons head tail =>
    obtain ⟨head', tail', rfl, heads, tails⟩ := List.map_eq_cons_iff.1 same
    simp only [ofCells, outline, outlineAll_eq_map, heads, tails]

mutual

theorem depth_shift (origin : Position) : ∀ node : Node, (node.shift origin).depth = node.depth
  | form head tail _ => by
    rw [shift, depth, depth, depth_shift origin head, depthAll_shiftAll origin tail]
  | atom .. | emptyList _ | endOfInput | foreign _ => rfl

theorem depthAll_shiftAll (origin : Position) :
    ∀ nodes : List Node, depthAll (shiftAll origin nodes) = depthAll nodes
  | [] => rfl
  | node :: nodes => by
    rw [shiftAll, depthAll, depthAll, depth_shift origin node, depthAll_shiftAll origin nodes]

end

theorem isParenthesized_shift (origin : Position) (node : Node) :
    (node.shift origin).isParenthesized = node.isParenthesized := by
  cases node <;> rfl

end Node

namespace Grammar.Derives

variable {nodes : List Node} {tokens : List Token}

theorem exists_alike {src other : Text} {others : List Token} (derived : Derives nodes tokens)
    (same : others.map (Lexeme.ofToken other) = tokens.map (Lexeme.ofToken src)) :
    ∃ alike, Derives alike others ∧
      alike.map (Node.outline other) = nodes.map (Node.outline src) := by
  induction nodes, tokens, derived using induction_cells generalizing others with
  | nil =>
    obtain rfl : others = [] := by simpa using same
    exact ⟨[], .nil, rfl⟩
  | atom token nodes tokens kind _ ih =>
    obtain ⟨token', others, rfl, first, rest⟩ := List.map_eq_cons_iff.1 same
    obtain ⟨alike, derived, outlines⟩ := ih rest
    have kinds : token'.kind = token.kind := congrArg Lexeme.kind first
    refine ⟨_, .atom (kinds ▸ kind) derived, ?_⟩
    simp only [List.map_cons, outlines, Node.ofToken, Node.outline, first, kinds]
  | parenthesized opening cells inside closing nodes tokens opens _ closes _ ihInside ih =>
    rw [List.map_cons, List.map_append, List.map_cons] at same
    obtain ⟨opening', others, rfl, first, rest⟩ := List.map_eq_cons_iff.1 same
    obtain ⟨inside', others, rfl, insides, rest⟩ := List.map_eq_append_iff.1 rest
    obtain ⟨closing', others, rfl, last, rest⟩ := List.map_eq_cons_iff.1 rest
    obtain ⟨cells', derivedInside, cellOutlines⟩ := ihInside insides
    obtain ⟨alike, derived, outlines⟩ := ih rest
    have opens' : opening'.kind = .openParen := (congrArg Lexeme.kind first).trans opens
    have closes' : closing'.kind = .closeParen := (congrArg Lexeme.kind last).trans closes
    refine ⟨_, .parenthesized opens' derivedInside closes' derived, ?_⟩
    rw [List.map_cons, List.map_cons, outlines, Node.outline_ofCells cellOutlines]

/-- Kinds and texts of the tokens settle the nodes up to spans. -/
theorem outline_eq {src other : Text} {alike : List Node} {others : List Token}
    (derived : Derives nodes tokens) (derived' : Derives alike others)
    (same : others.map (Lexeme.ofToken other) = tokens.map (Lexeme.ofToken src)) :
    alike.map (Node.outline other) = nodes.map (Node.outline src) := by
  obtain ⟨found, derivedFound, outlines⟩ := derived.exists_alike same
  obtain rfl : alike = found := derived'.unique derivedFound
  exact outlines

theorem shift (origin : Position) (derived : Derives nodes tokens) :
    Derives (nodes.map (Node.shift origin)) (tokens.map (Token.shift origin)) := by
  induction nodes, tokens, derived using induction_cells with
  | nil => exact .nil
  | atom token nodes tokens kind _ ih =>
    rw [List.map_cons, List.map_cons, Node.shift_ofToken]
    exact .atom kind ih
  | parenthesized opening cells inside closing nodes tokens opens _ closes _ ihInside ih =>
    rw [List.map_cons, List.map_cons, List.map_append, List.map_cons, Node.shift_ofCells]
    have opens' : (opening.shift origin).kind = .openParen := opens
    have closes' : (closing.shift origin).kind = .closeParen := closes
    exact .parenthesized opens' ihInside closes' ih

end Grammar.Derives
end SexprCall
