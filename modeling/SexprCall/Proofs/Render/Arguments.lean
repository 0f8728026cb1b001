import SexprCall.Proofs.Grammar.Subtree
import SexprCall.Proofs.Render.Injectivity

/-! Arguments in the text of calls. They stand there as they are rendered, with a space between two of
them: stripping only takes the line feed that the first of them may begin with. -/
namespace SexprCall

open Grammar

namespace Node

/-- The head of the head, as far as it goes. -/
def innermost : Node → Node
  | form head _ _ => head.innermost
  | atom kind token span => atom kind token span
  | emptyList span => emptyList span
  | endOfInput => endOfInput
  | foreign value => foreign value

def isAtom : Node → Bool
  | atom .. => true
  | form .. | emptyList _ | endOfInput | foreign _ => false

/-- The node is a form, and its innermost head an atom. -/
def startsLine : Node → Bool
  | form head _ _ => head.innermost.isAtom
  | atom .. | emptyList _ | endOfInput | foreign _ => false

theorem isAtom_outline (src : Text) (node : Node) : (node.outline src).isAtom = node.isAtom := by
  cases node <;> rfl

theorem innermost_outline (src : Text) (node : Node) :
    (node.outline src).innermost = node.innermost.outline src := by
  fun_induction innermost node with
  | case1 head tail span ih => exact ih
  | case2 | case3 | case4 | case5 => rfl

theorem startsLine_outline (src : Text) (node : Node) :
    (node.outline src).startsLine = node.startsLine := by
  cases node with
  | form head =>
    rw [outline, Outline.startsLine, startsLine, innermost_outline, isAtom_outline]
  | atom | emptyList | endOfInput | foreign => rfl

end Node

/-- In a source that is read, only symbols can have blanks at their ends. -/
theorem trimmed_of_parse {src : Text} {nodes : List Node} (read : parse src = .ok nodes)
    (symbols : ∀ token ∈ tokenize src, token.kind ∈ symbolKinds → (token.text src).Trimmed) :
    ∀ token ∈ significant (tokenize src), token.kind ∈ atomKinds →
      token.text src ≠ [] ∧ (token.text src).Trimmed := by
  intro token member atom
  have among := significant_subset _ member
  refine ⟨text_ne_nil_of_mem_tokenize among, ?_⟩
  rcases List.mem_append.1 atom with symbol | literal
  · exact symbols token among symbol
  · obtain ⟨after, more, fits⟩ := exists_fits_of_parse read member atom
    exact fits.trimmed_of_literal more literal

theorem Grammar.Derives.sound_outline {src : Text} {nodes : List Node} {tokens : List Token}
    (derived : Derives nodes tokens)
    (atoms : ∀ token ∈ tokens, token.kind ∈ atomKinds →
      token.text src ≠ [] ∧ (token.text src).Trimmed) :
    ∀ node ∈ nodes, (node.outline src).Sound := by
  induction nodes, tokens, derived using induction_cells with
  | nil => simp
  | atom token nodes tokens kind _ ih =>
    rw [List.forall_mem_cons] at atoms ⊢
    obtain ⟨some, trimmed⟩ := atoms.1 kind
    exact ⟨.atom some trimmed, ih atoms.2⟩
  | parenthesized opening cells inside closing nodes tokens _ _ _ _ ihInside ih =>
    rw [List.forall_mem_cons, List.forall_mem_append, List.forall_mem_cons] at atoms
    obtain ⟨-, inside, -, later⟩ := atoms
    refine List.forall_mem_cons.2 ⟨?_, ih later⟩
    have cellsSound := ihInside inside
    cases cells with
    | nil => exact .emptyList
    | cons head tail =>
      rw [List.forall_mem_cons] at cellsSound
      rw [Node.ofCells, Node.outline, Node.outlineAll_eq_map]
      exact .form cellsSound.1 (List.forall_mem_map.2 cellsSound.2)

/-- The cells of a form are derived by a part of the tokens that derive the nodes around it. -/
theorem Grammar.Derives.exists_cells_of_at? {nodes : List Node} {tokens : List Token}
    (derived : Derives nodes tokens) {node head : Node} {tail : List Node} {span : Span}
    {path : List Node.Step} (member : node ∈ nodes)
    (within : node.at? path = some (.form head tail span)) :
    ∃ inside, inside ⊆ tokens ∧ Derives (head :: tail) inside := by
  obtain ⟨before, middle, after, rfl, derivedForm⟩ := derived.exists_of_at? member within
  cases derivedForm with
  | @form opening _ _ inside closing _ rest _ cells =>
    refine ⟨inside, fun token member => ?_, cells⟩
    simp [member]

/-- The texts of nodes with sound outlines, joined with spaces, lose at most the line feed in front when
they become arguments. -/
theorem Node.exists_arguments {src : Text} {first : Node} {later : List Node}
    (sound : ∀ cell ∈ first :: later, (cell.outline src).Sound) :
    ∃ rendered inside, renderAll src (first :: later) = .ok rendered ∧
      arguments rendered = '(' :: inside ++ [')'] ∧
      Text.joinWith [' '] rendered = if first.startsLine then '\n' :: inside else inside := by
  have outlines : ∀ other ∈ (first :: later).map (outline src), other.Sound :=
    List.forall_mem_map.2 sound
  have rendered : renderAll src (first :: later) =
      .ok (((first :: later).map (outline src)).map Outline.text) := by
    rw [← Outline.renderAll_outlineAll, outlineAll_eq_map]
    exact Outline.renderAll_of_render fun cell member => (outlines cell member).renders.1
  have lined := Outline.lined_join outlines
  rw [startsLine_outline] at lined
  exact ⟨_, _, rendered, rfl, lined.eq_strip⟩

/-- Take a source that is read and in which no symbol has a blank at an end, and a form with arguments, at
any depth in it. Between the parentheses that its arguments get there are their texts, whole and with a
space between two of them, except that a line feed is missing in front if the first argument is a form
whose innermost head is an atom. -/
theorem arguments_of_parse {src : Text} {nodes : List Node} (read : parse src = .ok nodes)
    (symbols : ∀ token ∈ tokenize src, token.kind ∈ symbolKinds → (token.text src).Trimmed)
    {node head first : Node} {later : List Node} {span : Span} {path : List Node.Step}
    (member : node ∈ nodes) (within : node.at? path = some (.form head (first :: later) span)) :
    ∃ rendered inside, Node.renderAll src (first :: later) = .ok rendered ∧
      Node.arguments rendered = '(' :: inside ++ [')'] ∧
      Text.joinWith [' '] rendered = if first.startsLine then '\n' :: inside else inside := by
  obtain ⟨derived, -⟩ := derives_of_parse read
  obtain ⟨tokens, among, cells⟩ := derived.exists_cells_of_at? member within
  have sound := cells.sound_outline fun token member => trimmed_of_parse read symbols token (among member)
  exact Node.exists_arguments fun cell member => sound cell (List.mem_cons_of_mem head member)

/-- A form with a form as its head begins on a line of its own; a literal keeps the blanks it holds. -/
theorem arguments_of_parse_line :
    let src := "(f ((g)) \" \n\")".toList
    ∃ nodes node path head first later span, parse src = .ok nodes ∧
      (∀ token ∈ tokenize src, token.kind ∈ symbolKinds → (token.text src).Trimmed) ∧
      node ∈ nodes ∧ node.at? path = some (.form head (first :: later) span) ∧
      first.startsLine = true ∧
      ∃ rendered inside, Node.renderAll src (first :: later) = .ok rendered ∧
        Node.arguments rendered = '(' :: inside ++ [')'] ∧
        Text.joinWith [' '] rendered = '\n' :: inside := by
  intro src
  let word (offset : Nat) : Token :=
    ⟨.identifier, ⟨1, offset + 1, 1, offset + 1, offset, offset + 1⟩, 1⟩
  let quoted : Token := ⟨.literal, ⟨1, 10, 2, 1, 9, 13⟩, 4⟩
  let inner : Node := .form (.ofToken (word 5)) [] ⟨1, 5, 1, 7, 4, 7⟩
  let first : Node := .form inner [] ⟨1, 4, 1, 8, 3, 8⟩
  let node : Node := .form (.ofToken (word 1)) [first, .ofToken quoted] ⟨1, 1, 2, 2, 0, 14⟩
  have read : parse src = .ok [node] := by
    rw [parse_eq_feed]
    rfl
  have symbols : ∀ token ∈ tokenize src, token.kind ∈ symbolKinds → (token.text src).Trimmed := by
    decide
  have within : node.at? [] = some node := rfl
  exact ⟨_, node, [], _, first, _, _, read, symbols, List.mem_cons_self, within, rfl,
    arguments_of_parse read symbols List.mem_cons_self within⟩

end SexprCall
