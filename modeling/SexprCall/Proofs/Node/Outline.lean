import SexprCall.Node.Render
import SexprCall.Proofs.Grammar.Derivation

/-! Syntax trees without places. An outline keeps the texts of a node's atoms instead of its spans;
rendering needs no more than that. -/
namespace SexprCall

inductive Outline where
  | form (head : Outline) (tail : List Outline)
  | atom (kind : AtomKind) (lexeme : Lexeme)
  | emptyList
  | endOfInput
  | foreign (value : Foreign)

namespace Node

mutual

/-- The node up to spans. -/
def outline (src : Text) : Node → Outline
  | form head tail _ => .form (head.outline src) (outlineAll src tail)
  | atom kind token _ => .atom kind (.ofToken src token)
  | emptyList _ => .emptyList
  | endOfInput => .endOfInput
  | foreign value => .foreign value

def outlineAll (src : Text) : List Node → List Outline
  | [] => []
  | node :: nodes => node.outline src :: outlineAll src nodes

end

theorem outlineAll_eq_map (src : Text) (nodes : List Node) :
    outlineAll src nodes = nodes.map (outline src) := by
  induction nodes with
  | nil => rfl
  | cons node nodes ih => rw [outlineAll, ih, List.map_cons]

end Node

namespace Outline

mutual

def render : Outline → (before : Text) → Except RenderError Text
  | form head tail, before =>
    match head with
    | form .. => do
      let callee ← render head before
      let rendered ← renderAll tail
      return callee ++ Node.arguments rendered
    | atom .literal lexeme => .ok (before ++ '\n' :: lexeme.text)
    | atom .symbol lexeme => do
      let rendered ← renderAll tail
      return before ++ '\n' :: lexeme.text ++ Node.arguments rendered
    | emptyList => .ok (before ++ ['(', ')'])
    | endOfInput | foreign _ => .ok before
  | atom _ lexeme, _ => .ok lexeme.text
  | emptyList, _ => .ok ['(', ')']
  | endOfInput, before => .ok before
  | foreign value, _ => .error (.foreign value)

def renderAll : List Outline → Except RenderError (List Text)
  | [] => .ok []
  | outline :: outlines => do
    let text ← render outline []
    let texts ← renderAll outlines
    return text :: texts

end

mutual

/-- A node renders to the text of its outline. -/
theorem render_outline (src : Text) :
    ∀ (node : Node) (before : Text), (node.outline src).render before = node.render src before
  | .form head tail _, before => by
    have callee := render_outline src head before
    have rendered := renderAll_outlineAll src tail
    cases head with
    | form => simp only [Node.outline, render, Node.render] at *; rw [callee, rendered]
    | atom kind => cases kind <;> simp only [Node.outline, render, Node.render, rendered] <;> rfl
    | emptyList | endOfInput | foreign => rfl
  | .atom .., _ | .emptyList _, _ | .endOfInput, _ | .foreign _, _ => rfl

theorem renderAll_outlineAll (src : Text) :
    ∀ nodes : List Node, renderAll (Node.outlineAll src nodes) = Node.renderAll src nodes
  | [] => rfl
  | node :: nodes => by
    rw [Node.outlineAll, renderAll, Node.renderAll, render_outline src node,
      renderAll_outlineAll src nodes]

end

def openParen : Lexeme := ⟨.openParen, ['(']⟩

def closeParen : Lexeme := ⟨.closeParen, [')']⟩

mutual

/-- The lexemes that an outline stands for. -/
def lexemes : Outline → List Lexeme
  | form head tail => openParen :: (head.lexemes ++ (lexemesAll tail ++ [closeParen]))
  | atom _ lexeme => [lexeme]
  | emptyList => [openParen, closeParen]
  | endOfInput | foreign _ => []

def lexemesAll : List Outline → List Lexeme
  | [] => []
  | outline :: outlines => outline.lexemes ++ lexemesAll outlines

end

theorem lexemes_ofCells (src : Text) (cells : List Node) (span : Span) :
    ((Node.ofCells cells span).outline src).lexemes =
      openParen :: (lexemesAll (cells.map (Node.outline src)) ++ [closeParen]) := by
  cases cells with
  | nil => rfl
  | cons head tail =>
    simp only [Node.ofCells, Node.outline, lexemes, Node.outlineAll_eq_map, List.map_cons,
      lexemesAll, List.append_assoc]

theorem ofToken_of_openParen {src : Text} {token : Token} (member : token ∈ tokenize src)
    (opens : token.kind = .openParen) : Lexeme.ofToken src token = openParen := by
  obtain ⟨after, fits⟩ := exists_fits_of_mem_tokenize member
  have text : token.text src = ['('] := fits.text_parenthesis.1 opens
  rw [Lexeme.ofToken, opens, text, openParen]

theorem ofToken_of_closeParen {src : Text} {token : Token} (member : token ∈ tokenize src)
    (closes : token.kind = .closeParen) : Lexeme.ofToken src token = closeParen := by
  obtain ⟨after, fits⟩ := exists_fits_of_mem_tokenize member
  have text : token.text src = [')'] := fits.text_parenthesis.2 closes
  rw [Lexeme.ofToken, closes, text, closeParen]

/-- What derives nodes are the lexemes of their outlines. -/
theorem lexemes_of_derives {src : Text} {nodes : List Node} {tokens : List Token}
    (derived : Grammar.Derives nodes tokens) (scanned : ∀ token ∈ tokens, token ∈ tokenize src) :
    tokens.map (Lexeme.ofToken src) = lexemesAll (nodes.map (Node.outline src)) := by
  induction nodes, tokens, derived using Grammar.Derives.induction_cells with
  | nil => rfl
  | atom token nodes tokens kind _ ih =>
    rw [List.map_cons, ih fun other member => scanned other (List.mem_cons_of_mem _ member)]
    rfl
  | parenthesized opening cells inside closing nodes tokens opens _ closes _ ihInside ih =>
    simp only [List.forall_mem_cons, List.forall_mem_append] at scanned
    obtain ⟨opening, inside, closing, later⟩ := scanned
    simp only [List.map_cons, List.map_append, ihInside inside, ih later, lexemesAll,
      lexemes_ofCells, ofToken_of_openParen opening opens, ofToken_of_closeParen closing closes]
    simp

end Outline
end SexprCall
