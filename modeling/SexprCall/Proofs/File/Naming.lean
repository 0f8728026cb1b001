import SexprCall.File.Conversion
import SexprCall.Proofs.Text.Trimming

/-! Which characters paths have. A path made from a text, and the default output beside it, hold the
character NUL only if the text does. -/
namespace SexprCall

namespace Path

theorem segments_subset {text segment : Text} (member : segment ∈ segments text) :
    segment ⊆ text := by
  induction text generalizing segment with
  | nil =>
    obtain rfl := List.mem_singleton.1 member
    exact List.nil_subset _
  | cons c rest ih =>
    rw [segments] at member
    split at member
    · rcases List.mem_cons.1 member with rfl | later
      · exact List.nil_subset _
      · exact List.subset_cons_of_subset c (ih later)
    · cases parts : segments rest with
      | nil => simp [parts] at member
      | cons first others =>
        rw [parts] at member ih
        rcases List.mem_cons.1 member with rfl | later
        · exact List.cons_subset_cons c (ih List.mem_cons_self)
        · exact List.subset_cons_of_subset c (ih (List.mem_cons_of_mem _ later))

theorem names_ofText_subset {text name : Text} (member : name ∈ (ofText text).names) :
    name ⊆ text := segments_subset (List.mem_filter.1 member).1

/-- Dots and slashes may be added to what the names have. -/
theorem toText_subset (path : Path) : path.toText ⊆ ['.', '/'] ++ path.names.flatten := by
  have slash : ['/'] ⊆ ['.', '/'] ++ path.names.flatten := by simp
  unfold toText
  split
  · simp
  · apply List.append_subset.2
    constructor
    · cases path.origin <;> simp [Origin.slashes]
    · apply Text.joinWith_subset slash
      intro name member c within
      exact List.mem_append_right _ (List.mem_flatten_of_mem member within)

theorem stemOf_subset (name : Text) : stemOf name ⊆ name := by
  unfold stemOf
  split
  · exact List.Subset.refl _
  · rename_i dot front found
    split
    · exact List.Subset.refl _
    · have later : front ⊆ name.reverse := by
        apply List.Subset.trans (List.subset_cons_self dot front)
        rw [← found]
        exact (List.dropWhile_sublist _).subset
      intro c member
      exact List.mem_reverse.1 (later (List.mem_reverse.1 member))

end Path

theorem holdsNul_eq_false {path : Path} (plain : ∀ name ∈ path.names, '\x00' ∉ name) :
    holdsNul path = false := by
  rw [holdsNul, List.contains_eq_mem, decide_eq_false_iff_not]
  intro within
  rcases List.mem_append.1 (path.toText_subset within) with mark | inside
  · revert mark
    decide
  · obtain ⟨name, among, within⟩ := List.mem_flatten.1 inside
    exact plain name among within

section

variable {text : Text}

theorem holdsNul_ofText (plain : '\x00' ∉ text) : holdsNul (.ofText text) = false :=
  holdsNul_eq_false fun _ member within => plain (Path.names_ofText_subset member within)

theorem holdsNul_defaultOutput (plain : '\x00' ∉ text) :
    holdsNul (defaultOutput (.ofText text)) = false := by
  have last : (Path.ofText text).lastName ⊆ text := by
    unfold Path.lastName
    cases found : (Path.ofText text).names.getLast? with
    | none => exact List.nil_subset _
    | some name => exact Path.names_ofText_subset (List.mem_of_getLast? found)
  apply holdsNul_eq_false
  intro name member within
  obtain rfl := List.mem_singleton.1 member
  rcases List.mem_append.1 within with stem | extension
  · exact plain (last (Path.stemOf_subset _ stem))
  · revert extension
    decide

end

end SexprCall
