import SexprCall.File.System

/-! What a write does to a file system, seen through look-ups: where it leads to, that nothing else
changes, and that the same path reads back what was written. -/
namespace SexprCall.FileSystem

open Text.Utf8 (Bytes)

/-- The place that a path opens for writing. Only a directory cannot be opened where a path leads. -/
def target (system : FileSystem) (path : Path) : Except AccessError Location :=
  match system.locate path with
  | .error error => .error error
  | .ok location =>
    if system.lookup location = some .directory then .error .isDirectory else .ok location

/-- Whether a write succeeds does not depend on what is written. -/
theorem write_eq (system : FileSystem) (path : Path) (content : Bytes) :
    system.write path content =
      (system.target path).map fun location => system.put location (.file content) := by
  unfold write target
  cases system.locate path with
  | error error => rfl
  | ok location =>
    rcases found : system.lookup location with _ | (_ | old) <;> simp [found, Except.map]

variable {system : FileSystem} {path : Path} {location : Location}

theorem locate_of_target (opens : system.target path = .ok location) :
    system.locate path = .ok location ∧ system.lookup location ≠ some .directory := by
  unfold target at opens
  cases located : system.locate path with
  | error error => simp [located] at opens
  | ok other =>
    simp only [located] at opens
    split at opens
    · cases opens
    · obtain rfl := Except.ok.inj opens
      exact ⟨rfl, ‹_›⟩

theorem ne_nil_of_lookup (free : system.lookup location ≠ some .directory) : location ≠ [] := by
  rintro rfl
  exact free rfl

structure Replaced (before after : FileSystem) (location : Location) (content : Bytes) : Prop where
  current : after.current = before.current
  there : after.lookup location = some (.file content)
  elsewhere : ∀ other, other ≠ location → after.lookup other = before.lookup other

theorem replaced_put (free : system.lookup location ≠ some .directory) (content : Bytes) :
    Replaced system (system.put location (.file content)) location content := by
  have named := ne_nil_of_lookup free
  refine ⟨rfl, ?_, ?_⟩
  · rw [put_lookup _ _ _ _ named, if_pos rfl]
  · intro other apart
    rw [put_lookup _ _ _ _ named, if_neg apart]

/-- The way to a file goes through directories, so a file put elsewhere does not stand in it. -/
theorem walk_put {here : Location} {names : List Text} {content : Bytes} {found : Location}
    (free : system.lookup location ≠ some .directory)
    (walked : system.walk here names = .ok found) :
    (system.put location (.file content)).walk here names = .ok found := by
  induction names generalizing here with
  | nil => exact walked
  | cons name names ih =>
    rw [walk] at walked
    rcases entry : system.lookup here with _ | (_ | old)
    · simp [entry] at walked
    · have apart : here ≠ location := by
        rintro rfl
        exact free entry
      have same := (replaced_put free content).elsewhere here apart
      rw [entry] at walked same
      rw [walk, same]
      simp only at walked ⊢
      split at walked
      · rw [if_pos ‹_›]
        exact ih walked
      · rw [if_neg ‹_›]
        split at walked
        · cases walked
        · rw [if_neg ‹_›]
          exact ih walked
    · simp [entry] at walked

/-- A path reads back what was written through it. -/
theorem read_put (opens : system.target path = .ok location) (content : Bytes) :
    (system.put location (.file content)).read path = .ok content := by
  obtain ⟨located, free⟩ := locate_of_target opens
  have there := (replaced_put free content).there
  have again : (system.put location (.file content)).locate path = .ok location := by
    unfold locate at located ⊢
    split at located
    · cases located
    · rw [if_neg ‹_›]
      exact walk_put free located
  simp only [read, again, there]

end SexprCall.FileSystem
