import SexprCall.Proofs.File.Naming

/-! Paths in normal form and the default output beside them. The text of a path in normal form gives this
path again, so it makes no difference how often a path is made normal. -/
namespace SexprCall

open Text

namespace Path

theorem segments_eq_splitOn (text : Text) : segments text = text.splitOn '/' := by
  induction text with
  | nil => rfl
  | cons c rest ih =>
    rw [segments, ih, List.splitOn_eq_splitOnP, List.splitOn_eq_splitOnP,
      List.splitOnP_cons_eq_if_modifyHead]
    simp only [beq_iff_eq]

theorem slash_not_mem_segments {text segment : Text} (member : segment ∈ segments text) :
    '/' ∉ segment := by
  induction text generalizing segment with
  | nil =>
    obtain rfl := List.mem_singleton.1 member
    exact List.not_mem_nil
  | cons c rest ih =>
    rw [segments] at member
    split at member
    · rcases List.mem_cons.1 member with rfl | later
      · exact List.not_mem_nil
      · exact ih later
    · rename_i other
      cases parts : segments rest with
      | nil => simp [parts] at member
      | cons first others =>
        rw [parts] at member ih
        rcases List.mem_cons.1 member with rfl | later
        · rw [List.mem_cons, not_or]
          exact ⟨Ne.symm other, ih List.mem_cons_self⟩
        · exact ih (List.mem_cons_of_mem _ later)

/-- The names are those that may stand between slashes. -/
def Normal (path : Path) : Prop := ∀ name ∈ path.names, isName name = true ∧ '/' ∉ name

theorem normal_ofText (text : Text) : (ofText text).Normal := by
  intro name member
  obtain ⟨segment, named⟩ := List.mem_filter.1 member
  exact ⟨named, slash_not_mem_segments segment⟩

theorem ne_nil_of_isName {name : Text} (named : isName name = true) : name ≠ [] := by
  rintro rfl
  cases named

/-- Joined names do not begin with a slash. -/
theorem exists_joinWith_cons {name : Text} (named : isName name = true) (plain : '/' ∉ name)
    (names : List Text) :
    ∃ c rest, joinWith ['/'] (name :: names) = c :: rest ∧ c ≠ '/' := by
  cases name with
  | nil => cases named
  | cons c rest =>
    have other : c ≠ '/' := by
      rintro rfl
      exact plain List.mem_cons_self
    cases names with
    | nil => exact ⟨c, rest, by simp [joinWith], other⟩
    | cons next names => exact ⟨c, _, joinWith_cons_cons _ _ _ _, other⟩

/-- The text of a path in normal form gives this path. -/
theorem ofText_toText {path : Path} (normal : path.Normal) : ofText path.toText = path := by
  obtain ⟨origin, names⟩ := path
  cases names with
  | nil => cases origin <;> rfl
  | cons name names =>
    have kept : (name :: names).filter isName = name :: names :=
      List.filter_eq_self.2 fun other member => (normal other member).1
    have joined : segments (joinWith ['/'] (name :: names)) = name :: names := by
      rw [segments_eq_splitOn]
      exact List.splitOn_intercalate '/' (fun other member => (normal other member).2)
        (List.cons_ne_nil _ _)
    obtain ⟨named, plain⟩ := normal name List.mem_cons_self
    obtain ⟨c, rest, begins, other⟩ := exists_joinWith_cons named plain names
    have origins : originOf (origin.slashes ++ c :: rest) = origin := by
      cases origin <;> simp [originOf, Origin.slashes, other]
    have parts : (segments (origin.slashes ++ c :: rest)).filter isName =
        (segments (c :: rest)).filter isName := by
      cases origin <;> simp [segments, Origin.slashes, isName]
    have shown : (Path.mk origin (name :: names)).toText = origin.slashes ++ c :: rest := by
      rw [toText, if_neg (by simp), begins]
    rw [shown, ofText, origins, parts, ← begins, joined, kept]

/-- The stem of a name with the output ending is what stands before it. -/
theorem stemOf_append {stem : Text} (nonempty : stem ≠ []) :
    stemOf (stem ++ outputExtension) = stem := by
  have reversed : (stem ++ outputExtension).reverse = 'y' :: 'p' :: '.' :: stem.reverse := by
    rw [List.reverse_append]
    rfl
  have last : (stem ++ outputExtension).getLast? = some 'y' := by
    rw [List.getLast?_append]
    rfl
  simp [stemOf, reversed, last, nonempty]

theorem stemOf_ne_nil {name : Text} (nonempty : name ≠ []) : stemOf name ≠ [] := by
  unfold stemOf
  split
  · exact nonempty
  · split
    · exact nonempty
    · rename_i inside
      rw [not_or] at inside
      simpa using inside.1

theorem stem_eq_nil_iff {path : Path} (normal : path.Normal) : path.stem = [] ↔ path.names = [] := by
  unfold stem lastName
  cases last : path.names.getLast? with
  | none =>
    rw [List.getLast?_eq_none_iff.1 last]
    exact iff_of_true rfl rfl
  | some name =>
    have member := List.mem_of_getLast? last
    have named := stemOf_ne_nil (ne_nil_of_isName (normal name member).1)
    exact iff_of_false named (List.ne_nil_of_mem member)

end Path

theorem stem_defaultOutput {path : Path} (named : path.stem ≠ []) :
    (defaultOutput path).stem = path.stem := Path.stemOf_append named

/-- Choosing again changes nothing, unless there was no name to begin with. -/
theorem defaultOutput_defaultOutput_iff {path : Path} :
    defaultOutput (defaultOutput path) = defaultOutput path ↔ path.stem ≠ [] := by
  constructor
  · intro again empty
    rw [defaultOutput, defaultOutput, empty] at again
    revert again
    decide
  · intro named
    rw [defaultOutput, stem_defaultOutput named, defaultOutput]

/-- The input is its own output if and only if it has the output ending already. -/
theorem defaultOutput_eq_self_iff {path : Path} (normal : path.Normal) :
    defaultOutput path = path ↔
      ∃ stem, stem ≠ [] ∧ path = ⟨.current, [stem ++ outputExtension]⟩ := by
  constructor
  · intro same
    refine ⟨path.stem, ?_, same.symm⟩
    rw [Ne, Path.stem_eq_nil_iff normal, ← same]
    exact List.cons_ne_nil _ _
  · rintro ⟨stem, named, rfl⟩
    exact congrArg (fun stem => Path.mk .current [stem ++ outputExtension]) (Path.stemOf_append named)

theorem slash_not_mem_stem {path : Path} (normal : path.Normal) : '/' ∉ path.stem := by
  intro within
  have member := Path.stemOf_subset _ within
  unfold Path.lastName at member
  cases last : path.names.getLast? with
  | none => simp [last] at member
  | some name =>
    rw [last] at member
    exact (normal name (List.mem_of_getLast? last)).2 member

structure OutputName (name : Text) : Prop where
  nonempty : name ≠ []
  plain : '/' ∉ name
  proper : name ≠ ['.'] ∧ name ≠ Path.parent
  ending : outputExtension <:+ name

theorem outputName_append {stem : Text} (plain : '/' ∉ stem) :
    OutputName (stem ++ outputExtension) := by
  have long : 3 ≤ (stem ++ outputExtension).length := by
    rw [List.length_append]
    exact Nat.le_add_left 3 stem.length
  have short {other : Text} (few : other.length < 3) : stem ++ outputExtension ≠ other := by
    rintro rfl
    omega
  refine ⟨short (by decide), ?_, ⟨short (by decide), short (by decide)⟩, stem, rfl⟩
  rw [List.mem_append, not_or]
  exact ⟨plain, by decide⟩

end SexprCall
