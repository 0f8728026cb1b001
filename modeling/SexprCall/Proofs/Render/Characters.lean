import SexprCall.Proofs.Render.Success
import SexprCall.Proofs.Text.Trimming

/-! Which characters rendered text has: those of the source, and the few that calls are written with. -/
namespace SexprCall

theorem Text.slice_subset (text : Text) (start stop : Nat) : text.slice start stop ⊆ text := by
  intro c member
  exact List.mem_of_mem_drop (List.mem_of_mem_take member)

def punctuation : Text := ['\n', ' ', '(', ')']

theorem Token.text_subset (src : Text) (token : Token) : token.text src ⊆ src := by
  unfold text
  split
  · exact List.nil_subset _
  · exact Text.slice_subset _ _ _

namespace Node

variable {all : Text}

theorem arguments_subset {rendered : List Text} (marks : punctuation ⊆ all)
    (inside : ∀ text ∈ rendered, text ⊆ all) : arguments rendered ⊆ all := by
  have space : [' '] ⊆ all := List.Subset.trans (by simp [punctuation]) marks
  have stripped := List.Subset.trans (Text.strip_subset _) (Text.joinWith_subset space inside)
  intro c member
  rw [arguments, List.mem_append, List.mem_cons, List.mem_singleton] at member
  rcases member with (rfl | within) | rfl
  · exact marks (by decide)
  · exact stripped within
  · exact marks (by decide)

variable {src : Text}

/-- On a line of its own after what comes before. -/
theorem line_subset {before : Text} (marks : punctuation ⊆ all) (within : src ⊆ all)
    (front : before ⊆ all) (token : Token) : before ++ '\n' :: token.text src ⊆ all := by
  have feed : '\n' ∈ all := marks (by decide)
  have text := List.Subset.trans (token.text_subset src) within
  exact List.append_subset.2 ⟨front, List.cons_subset.2 ⟨feed, text⟩⟩

mutual

theorem render_subset (marks : punctuation ⊆ all) (within : src ⊆ all) :
    ∀ (node : Node) {before text : Text}, before ⊆ all → node.render src before = .ok text →
      text ⊆ all
  | .form head tail _, before, text, front, rendered => by
    have tailSubset := @renderAll_subset marks within tail
    have headSubset := @render_subset marks within head before
    cases head with
    | form =>
      rw [render] at rendered
      obtain ⟨callee, called, rendered⟩ := exists_of_bind_ok rendered
      obtain ⟨texts, cells, rendered⟩ := exists_of_bind_ok rendered
      obtain rfl := Except.ok.inj rendered
      exact List.append_subset.2 ⟨headSubset front called, arguments_subset marks (tailSubset cells)⟩
    | atom kind token =>
      cases kind with
      | literal =>
        obtain rfl := Except.ok.inj rendered
        exact line_subset marks within front token
      | symbol =>
        rw [render] at rendered
        obtain ⟨texts, cells, rendered⟩ := exists_of_bind_ok rendered
        obtain rfl := Except.ok.inj rendered
        exact List.append_subset.2
          ⟨line_subset marks within front token, arguments_subset marks (tailSubset cells)⟩
    | emptyList =>
      obtain rfl := Except.ok.inj rendered
      exact List.append_subset.2 ⟨front, List.Subset.trans (by simp [punctuation]) marks⟩
    | endOfInput | foreign =>
      obtain rfl := Except.ok.inj rendered
      exact front
  | .atom _ token _, _, _, _, rendered => by
    obtain rfl := Except.ok.inj rendered
    exact List.Subset.trans (token.text_subset src) within
  | .emptyList _, _, _, _, rendered => by
    obtain rfl := Except.ok.inj rendered
    exact List.Subset.trans (by simp [punctuation]) marks
  | .endOfInput, _, _, front, rendered => by
    obtain rfl := Except.ok.inj rendered
    exact front
  | .foreign _, _, _, _, rendered => by cases rendered

theorem renderAll_subset (marks : punctuation ⊆ all) (within : src ⊆ all) :
    ∀ (nodes : List Node) {texts : List Text}, renderAll src nodes = .ok texts →
      ∀ text ∈ texts, text ⊆ all
  | [], texts, rendered => by
    obtain rfl := Except.ok.inj rendered
    simp
  | node :: nodes, texts, rendered => by
    obtain ⟨text, later, first, rest, rfl⟩ := exists_of_renderAll_cons rendered
    rw [List.forall_mem_cons]
    exact ⟨render_subset marks within node (List.nil_subset _) first,
      renderAll_subset marks within nodes rest⟩

end

end Node

/-- Rendering writes nothing but characters of the source, line feeds, spaces and parentheses. -/
theorem subset_of_render {src text : Text} (rendered : render src = .ok text) :
    text ⊆ src ++ punctuation := by
  cases read : parse src with
  | error error =>
    rw [render_of_parse_error read] at rendered
    cases rendered
  | ok nodes =>
    obtain ⟨texts, all, whole⟩ := render_of_parse read
    obtain rfl := Except.ok.inj (whole.symm.trans rendered)
    intro c member
    obtain ⟨text, among, within⟩ := List.mem_flatten.1 member
    exact Node.renderAll_subset (List.subset_append_right _ _) (List.subset_append_left _ _) nodes all
      text among within

end SexprCall
