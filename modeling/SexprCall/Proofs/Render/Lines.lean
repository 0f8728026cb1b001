import SexprCall.Proofs.Node.Outline
import SexprCall.Proofs.Text.Trimming

/-! Where rendered text breaks into lines. A form whose innermost head is an atom begins on a line of
its own; that line feed is all that stripping can take from arguments. -/
namespace SexprCall.Outline

open Text

def text (outline : Outline) : Text :=
  match outline.render [] with
  | .ok text => text
  | .error _ => []

theorem text_of_render {outline : Outline} {rendered : Text}
    (same : outline.render [] = .ok rendered) : outline.text = rendered := by
  rw [text, same]

theorem renderAll_of_render {cells : List Outline}
    (rendered : ∀ cell ∈ cells, cell.render [] = .ok cell.text) :
    renderAll cells = .ok (cells.map text) := by
  induction cells with
  | nil => rfl
  | cons cell cells ih =>
    rw [List.forall_mem_cons] at rendered
    rw [renderAll, rendered.1, ih rendered.2]
    rfl

/-- The head of the head, as far as it goes. -/
def innermost : Outline → Outline
  | form head _ => head.innermost
  | outline => outline

def isAtom : Outline → Bool
  | atom .. => true
  | form .. | emptyList | endOfInput | foreign _ => false

def startsLine : Outline → Bool
  | form head _ => head.innermost.isAtom
  | atom .. | emptyList | endOfInput | foreign _ => false

/-- There are only forms, empty lists and atoms, and no atom has a blank at an end. -/
inductive Sound : Outline → Prop where
  | atom {kind lexeme} : lexeme.text ≠ [] → Trimmed lexeme.text → Sound (.atom kind lexeme)
  | emptyList : Sound .emptyList
  | form {head tail} : Sound head → (∀ cell ∈ tail, Sound cell) → Sound (.form head tail)

theorem arguments_last (rendered : List Text) :
    ∀ c ∈ (Node.arguments rendered).getLast?, isBlank c = false := by
  intro c back
  rw [Node.arguments, List.getLast?_append] at back
  obtain rfl : ')' = c := by simpa using back
  rfl

theorem arguments_ne_nil (rendered : List Text) : Node.arguments rendered ≠ [] :=
  List.append_ne_nil_of_right_ne_nil _ (List.cons_ne_nil _ _)

theorem render_form_form {callee : Outline} {cells tail : List Outline}
    (rendered : (form callee cells).render [] = .ok (form callee cells).text)
    (tailRendered : renderAll tail = .ok (tail.map text)) :
    (form (form callee cells) tail).render [] =
      .ok ((form callee cells).text ++ Node.arguments (tail.map text)) := by
  rw [render, rendered, tailRendered]
  rfl

theorem render_form_symbol {lexeme : Lexeme} {tail : List Outline}
    (tailRendered : renderAll tail = .ok (tail.map text)) :
    (form (.atom .symbol lexeme) tail).render [] =
      .ok ('\n' :: (lexeme.text ++ Node.arguments (tail.map text))) := by
  rw [render, tailRendered]
  rfl

theorem lined_emptyList : Lined false ['(', ')'] :=
  .plain (List.cons_ne_nil _ _) (.of_ends rfl rfl rfl rfl)

/-- A sound outline has a text, which begins with a line feed or not and has no other blank at an
end. -/
theorem Sound.renders {outline : Outline} (sound : Sound outline) :
    outline.render [] = .ok outline.text ∧ Lined outline.startsLine outline.text := by
  induction sound with
  | atom some trimmed => exact ⟨rfl, .plain some trimmed⟩
  | emptyList => exact ⟨rfl, lined_emptyList⟩
  | @form head tail headSound _ ihHead ihTail =>
    have rendered := renderAll_of_render fun cell member => (ihTail cell member).1
    obtain ⟨headRendered, lined⟩ := ihHead
    cases headSound with
    | @atom kind lexeme some trimmed =>
      cases kind with
      | literal => exact ⟨rfl, .feed some trimmed⟩
      | symbol =>
        have same := @render_form_symbol lexeme _ rendered
        rw [text_of_render same]
        refine ⟨same, .feed (List.append_ne_nil_of_left_ne_nil some _) ?_⟩
        exact .append trimmed.first some (arguments_last _) (arguments_ne_nil _)
    | emptyList => exact ⟨rfl, lined_emptyList⟩
    | form =>
      have same := render_form_form headRendered rendered
      rw [text_of_render same]
      exact ⟨same, lined.append (arguments_last _) (arguments_ne_nil _)⟩

/-- The arguments of a form are the texts of its tail with a space between two of them, without the
line feed in front if there is one. -/
theorem lined_join {cell : Outline} {cells : List Outline}
    (sound : ∀ other ∈ cell :: cells, Sound other) :
    Lined cell.startsLine (joinWith [' '] ((cell :: cells).map text)) := by
  rw [List.forall_mem_cons] at sound
  refine sound.1.renders.2.join fun other member => ?_
  obtain ⟨later, among, rfl⟩ := List.mem_map.1 member
  exact ⟨_, (sound.2 later among).renders.2⟩

end SexprCall.Outline
