import SexprCall.Command.Argument
import SexprCall.Proofs.Render.Success

/-! Where the texts in items come from: each is part of one argument. -/
namespace SexprCall.Command

inductive Item.Carries : Item → Text → Prop where
  | plain {text} : Carries (.plain text) text
  | value {bundle path} : Action.output path ∈ bundle.actions → Carries (.option (.ok bundle)) path

theorem Switch.action?_ne_output (switch : Switch) (path : Text) :
    switch.action? ≠ some (.output path) := by
  cases switch <;> simp [Switch.action?]

section

variable {rules : Rules} {switch : Switch} {bundle : Bundle} {path : Text}

theorem Rules.attachedOutput_subset {value : Text}
    (asked : .output path = rules.attachedOutput value) : path ⊆ value := by
  cases rules with
  | early =>
    obtain rfl : path = if value = ['-', '-'] then [] else value := Action.output.inj asked
    split
    · exact List.nil_subset _
    · exact List.Subset.refl _
  | late =>
    obtain rfl : path = value := Action.output.inj asked
    exact List.Subset.refl _

theorem unpack_subset {value? : Option Text} (unpacked : unpack rules switch value? = .ok bundle)
    (asked : .output path ∈ bundle.actions) : path ⊆ value?.getD [] := by
  unfold unpack at unpacked
  split at unpacked
  · obtain rfl := Except.ok.inj unpacked
    cases asked
  · obtain rfl := Except.ok.inj unpacked
    exact Rules.attachedOutput_subset (List.mem_singleton.1 asked)
  · rename_i action valueless
    obtain rfl := Except.ok.inj unpacked
    obtain rfl := List.mem_singleton.1 asked
    exact absurd valueless (switch.action?_ne_output path)
  · cases unpacked

theorem unpackLetters_subset {letters : Text}
    (unpacked : unpackLetters rules switch letters = .ok bundle)
    (asked : .output path ∈ bundle.actions) : path ⊆ letters := by
  fun_induction unpackLetters rules switch letters generalizing bundle with
  | case1 => exact unpack_subset unpacked asked
  | case2 => exact List.subset_cons_of_subset _ (unpack_subset unpacked asked)
  | case3 switch c letters _ action next _ valueless ih =>
    obtain ⟨rest, later, unpacked⟩ := exists_of_bind_ok unpacked
    obtain rfl := Except.ok.inj unpacked
    rcases List.mem_cons.1 asked with rfl | asked
    · exact absurd valueless (switch.action?_ne_output path)
    · exact List.subset_cons_of_subset c (ih later asked)
  | case4 switch c letters _ action _ valueless =>
    obtain rfl := Except.ok.inj unpacked
    obtain rfl := List.mem_singleton.1 asked
    exact absurd valueless (switch.action?_ne_output path)
  | case5 | case6 => exact unpack_subset unpacked asked

theorem unpackShort_subset {rest : Text} (unpacked : unpackShort rules switch rest = .ok bundle)
    (asked : .output path ∈ bundle.actions) : path ⊆ rest := by
  unfold unpackShort at unpacked
  split at unpacked
  · exact List.subset_cons_of_subset _ (unpack_subset unpacked asked)
  · exact List.subset_cons_of_subset _ (unpackLetters_subset unpacked asked)
  · exact unpackLetters_subset unpacked asked

end

section

variable {rules : Rules} {argument text : Text} {item : Item}

theorem dashed_subset (carried : (dashed argument).Carries text) : text ⊆ argument := by
  unfold dashed at carried
  split at carried
  · cases carried
    exact List.Subset.refl _
  · cases carried

theorem classifyLong_subset (classified : classifyLong rules argument = .ok item)
    (carried : item.Carries text) : text ⊆ argument := by
  unfold classifyLong at classified
  split at classified
  · obtain rfl := Except.ok.inj classified
    exact dashed_subset carried
  · rename_i switch _
    obtain rfl := Except.ok.inj classified
    generalize unpacked : unpack rules switch (argument.dropWhile (· != '=')).tail? = result at carried
    cases carried with
    | value asked =>
      have within := unpack_subset unpacked asked
      have later : (argument.dropWhile (· != '=')).tail?.getD [] ⊆ argument.dropWhile (· != '=') := by
        cases argument.dropWhile (· != '=') with
        | nil => exact List.Subset.refl _
        | cons c rest => exact List.subset_cons_self c rest
      exact List.Subset.trans within (List.Subset.trans later (List.dropWhile_sublist _).subset)
  · cases classified

theorem classify_subset (classified : classify rules argument = .ok item)
    (carried : item.Carries text) : text ⊆ argument := by
  unfold classify at classified
  split at classified
  · exact classifyLong_subset classified carried
  · rename_i c rest _
    split at classified
    · rename_i switch _
      obtain rfl := Except.ok.inj classified
      generalize unpacked : unpackShort rules switch rest = result at carried
      cases carried with
      | value asked =>
        have within := unpackShort_subset unpacked asked
        exact List.subset_cons_of_subset _ (List.subset_cons_of_subset _ within)
    · obtain rfl := Except.ok.inj classified
      exact dashed_subset carried
  · obtain rfl := Except.ok.inj classified
    cases carried
    exact List.Subset.refl _

/-- No argument is put together with another one. -/
theorem classifyAll_subset {arguments : List Text} {items : List Item}
    (classified : classifyAll rules arguments = .ok items) (member : item ∈ items)
    (carried : item.Carries text) : ∃ argument ∈ arguments, text ⊆ argument := by
  induction arguments generalizing items with
  | nil =>
    obtain rfl := Except.ok.inj classified
    cases member
  | cons argument arguments ih =>
    rw [classifyAll] at classified
    split at classified
    · obtain rfl := Except.ok.inj classified
      rcases List.mem_cons.1 member with rfl | member
      · cases carried
      · obtain ⟨plain, among, rfl⟩ := List.mem_map.1 member
        cases carried
        exact ⟨_, List.mem_cons_of_mem _ among, List.Subset.refl _⟩
    · obtain ⟨first, known, classified⟩ := exists_of_bind_ok classified
      obtain ⟨others, rest, classified⟩ := exists_of_bind_ok classified
      obtain rfl := Except.ok.inj classified
      rcases List.mem_cons.1 member with rfl | member
      · exact ⟨argument, List.mem_cons_self, classify_subset known carried⟩
      · obtain ⟨origin, among, within⟩ := ih rest member
        exact ⟨origin, List.mem_cons_of_mem _ among, within⟩

end

end SexprCall.Command
