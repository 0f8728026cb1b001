import SexprCall.Renderer
import SexprCall.Proofs.Grammar.Parsing
import SexprCall.Proofs.Node.Outline

/-! What is read can be rendered: no foreign value stands in a node's place. -/
namespace SexprCall

open Grammar

/-- What succeeds as a whole has succeeded in its first step. -/
theorem exists_of_bind_ok {ε α β : Type} {first : Except ε α} {next : α → Except ε β} {value : β}
    (whole : first >>= next = .ok value) : ∃ middle, first = .ok middle ∧ next middle = .ok value := by
  cases first with
  | error error => cases whole
  | ok middle => exact ⟨middle, rfl, whole⟩

namespace Node

variable {src : Text}

theorem renderAll_ok {nodes : List Node}
    (rendered : ∀ node ∈ nodes, ∃ text, node.render src [] = .ok text) :
    ∃ texts, renderAll src nodes = .ok texts := by
  induction nodes with
  | nil => exact ⟨[], rfl⟩
  | cons node nodes ih =>
    rw [List.forall_mem_cons] at rendered
    obtain ⟨text, first⟩ := rendered.1
    obtain ⟨texts, rest⟩ := ih rendered.2
    exact ⟨text :: texts, by rw [renderAll, first, rest]; rfl⟩

theorem exists_of_renderAll_cons {node : Node} {nodes : List Node} {texts : List Text}
    (rendered : renderAll src (node :: nodes) = .ok texts) :
    ∃ text later, node.render src [] = .ok text ∧ renderAll src nodes = .ok later ∧
      texts = text :: later := by
  rw [renderAll] at rendered
  obtain ⟨text, first, rendered⟩ := exists_of_bind_ok rendered
  obtain ⟨later, rest, rendered⟩ := exists_of_bind_ok rendered
  exact ⟨text, later, first, rest, (Except.ok.inj rendered).symm⟩

theorem map_render_of_renderAll {nodes : List Node} {texts : List Text}
    (rendered : renderAll src nodes = .ok texts) :
    nodes.map (render src · []) = texts.map .ok := by
  induction nodes generalizing texts with
  | nil =>
    obtain rfl := Except.ok.inj rendered
    rfl
  | cons node nodes ih =>
    obtain ⟨text, later, first, rest, rfl⟩ := exists_of_renderAll_cons rendered
    rw [List.map_cons, first, ih rest, List.map_cons]

theorem renderAll_append {first second : List Node} {texts others : List Text}
    (rendered : renderAll src first = .ok texts) (rendered' : renderAll src second = .ok others) :
    renderAll src (first ++ second) = .ok (texts ++ others) := by
  induction first generalizing texts with
  | nil =>
    obtain rfl : [] = texts := Except.ok.inj rendered
    exact rendered'
  | cons node nodes ih =>
    obtain ⟨text, later, one, rest, rfl⟩ := exists_of_renderAll_cons rendered
    rw [List.cons_append, renderAll, one, ih rest]
    rfl

theorem render_eq_of_outline {other : Text} {node alike : Node}
    (same : alike.outline other = node.outline src) (before : Text) :
    alike.render other before = node.render src before := by
  rw [← Outline.render_outline, ← Outline.render_outline, same]

/-- Nodes with the same outlines render alike, each over its source. -/
theorem renderAll_eq_of_outline {other : Text} {nodes others : List Node}
    (same : others.map (outline other) = nodes.map (outline src)) :
    renderAll other others = renderAll src nodes := by
  rw [← Outline.renderAll_outlineAll, ← Outline.renderAll_outlineAll, outlineAll_eq_map,
    outlineAll_eq_map, same]

end Node

theorem Grammar.Derives.render_ok {src : Text} {nodes : List Node} {tokens : List Token}
    (derived : Derives nodes tokens) :
    ∀ node ∈ nodes, ∀ before, ∃ text, node.render src before = .ok text := by
  -- Not by `induction_cells`: what a form renders to depends on its head.
  induction derived with
  | nil => simp
  | symbol _ _ ih | literal _ _ ih =>
    rw [List.forall_mem_cons]
    exact ⟨fun before => ⟨_, rfl⟩, ih⟩
  | emptyList _ _ _ ih =>
    rw [List.forall_mem_cons]
    exact ⟨fun before => ⟨_, rfl⟩, ih⟩
  | @form _ head tail _ _ _ _ _ _ _ _ ihInside ih =>
    rw [List.forall_mem_cons] at ihInside ⊢
    refine ⟨fun before => ?_, ih⟩
    obtain ⟨texts, rendered⟩ := Node.renderAll_ok fun node member => ihInside.2 node member []
    obtain ⟨callee, called⟩ := ihInside.1 before
    cases head with
    | form => exact ⟨_, by rw [Node.render, called, rendered]; rfl⟩
    | atom kind =>
      cases kind with
      | literal => exact ⟨_, rfl⟩
      | symbol => exact ⟨_, by rw [Node.render, rendered]; rfl⟩
    | emptyList | endOfInput | foreign => exact ⟨_, rfl⟩

/-- A source that is read renders, to the texts of its nodes in a row. -/
theorem render_of_parse {src : Text} {nodes : List Node} (read : parse src = .ok nodes) :
    ∃ texts, Node.renderAll src nodes = .ok texts ∧ render src = .ok texts.flatten := by
  obtain ⟨derived, -⟩ := derives_of_parse read
  obtain ⟨texts, rendered⟩ := Node.renderAll_ok fun node member => derived.render_ok node member []
  have result : (Reader.ofText src).readAll.result = .ok nodes := read
  refine ⟨texts, rendered, ?_⟩
  simp only [render, Renderer.render, Renderer.ofText, result, Renderer.renderNodes, rendered]

/-- A node alone in a source has the text of the source. -/
theorem render_of_parse_single {src : Text} {node : Node} (read : parse src = .ok [node]) :
    ∃ text, render src = .ok text ∧ node.render src [] = .ok text := by
  obtain ⟨derived, -⟩ := derives_of_parse read
  obtain ⟨text, one⟩ := derived.render_ok node List.mem_cons_self []
  obtain ⟨texts, all, rendered⟩ := render_of_parse read
  rw [Node.renderAll, one] at all
  obtain rfl : [text] = texts := Except.ok.inj all
  exact ⟨text, by rw [rendered, List.flatten_singleton], one⟩

/-- The error of a source that is not read is that of reading it. -/
theorem render_of_parse_error {src : Text} {error : ReadError} (failed : parse src = .error error) :
    render src = .error (.reading error) := by
  have result : (Reader.ofText src).readAll.result = .error error := failed
  simp only [render, Renderer.render, Renderer.ofText, result]

end SexprCall
