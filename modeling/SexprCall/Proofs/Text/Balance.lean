import SexprCall.Proofs.Text.Trimming

/-! Parentheses in texts. Where they are balanced, none is closed before it is opened and none stays
open; how many are open at a time is how deep the text nests. -/
namespace SexprCall.Text

/-- As many parentheses are opened as closed; up to any place no more are closed than opened, and no more
than `depth` are open. -/
structure Balanced (depth : Nat) (text : Text) : Prop where
  settled : text.count '(' = text.count ')'
  upTo : ∀ front, front <+: text →
    front.count ')' ≤ front.count '(' ∧ front.count '(' ≤ front.count ')' + depth

def Unbracketed (text : Text) : Prop := '(' ∉ text ∧ ')' ∉ text

instance (text : Text) : Decidable (Unbracketed text) := inferInstanceAs (Decidable (_ ∧ _))

/-- A part in front of two texts ends in the first of them or in the second. -/
theorem exists_of_prefix_append {front left right : Text} (leads : front <+: left ++ right) :
    front <+: left ∨ ∃ more, more <+: right ∧ front = left ++ more := by
  rcases List.prefix_or_prefix_of_prefix leads (List.prefix_append left right) with within | ⟨more, rfl⟩
  · exact .inl within
  · exact .inr ⟨more, (List.prefix_append_right_inj left).1 leads, rfl⟩

namespace Unbracketed

variable {text other : Text}

theorem count (clear : Unbracketed text) : text.count '(' = 0 ∧ text.count ')' = 0 :=
  ⟨List.count_eq_zero_of_not_mem clear.1, List.count_eq_zero_of_not_mem clear.2⟩

theorem of_subset (clear : Unbracketed text) (within : other ⊆ text) : Unbracketed other :=
  ⟨fun member => clear.1 (within member), fun member => clear.2 (within member)⟩

theorem of_blanks (blanks : ∀ c ∈ text, isBlank c = true) : Unbracketed text := by
  constructor
  all_goals
    intro member
    exact absurd (blanks _ member) (by decide)

end Unbracketed

namespace Balanced

variable {depth : Nat} {text other : Text}

theorem of_unbracketed (clear : Unbracketed text) (depth : Nat) : Balanced depth text := by
  obtain ⟨opens, closes⟩ := clear.count
  refine ⟨opens.trans closes.symm, fun front leads => ?_⟩
  obtain ⟨opens, closes⟩ := (clear.of_subset leads.subset).count
  omega

theorem nil (depth : Nat) : Balanced depth [] := of_unbracketed (by decide) depth

theorem mono {bound : Nat} (balanced : Balanced depth text) (le : depth ≤ bound) :
    Balanced bound text := by
  refine ⟨balanced.settled, fun front leads => ?_⟩
  have upTo := balanced.upTo front leads
  omega

theorem append (first : Balanced depth text) (second : Balanced depth other) :
    Balanced depth (text ++ other) := by
  have settled := first.settled
  refine ⟨?_, fun front leads => ?_⟩
  · rw [List.count_append, List.count_append, settled, second.settled]
  · rcases exists_of_prefix_append leads with within | ⟨more, within, rfl⟩
    · exact first.upTo front within
    · have upTo := second.upTo more within
      simp only [List.count_append]
      omega

/-- A pair of parentheses around it makes it one deeper. -/
theorem parenthesized (inside : Balanced depth text) :
    Balanced (depth + 1) ('(' :: text ++ [')']) := by
  have opened (front : Text) : ('(' :: front).count '(' = front.count '(' + 1 ∧
      ('(' :: front).count ')' = front.count ')' :=
    ⟨List.count_cons_self, List.count_cons_of_ne (by decide)⟩
  have whole : ('(' :: text ++ [')']).count '(' = ('(' :: text ++ [')']).count ')' := by
    rw [List.cons_append, (opened _).1, (opened _).2, List.count_append, List.count_append,
      inside.settled]
    rfl
  refine ⟨whole, fun front leads => ?_⟩
  rcases List.prefix_concat_iff.1 leads with rfl | within
  · omega
  cases front with
  | nil => exact ⟨Nat.le_refl 0, Nat.zero_le _⟩
  | cons c front =>
    obtain ⟨rfl, more⟩ := List.cons_prefix_cons.1 within
    have upTo := inside.upTo front more
    rw [(opened front).1, (opened front).2]
    omega

/-- What has no parentheses can be taken away in front. -/
theorem of_append_left (clear : Unbracketed other) (balanced : Balanced depth (other ++ text)) :
    Balanced depth text := by
  obtain ⟨opens, closes⟩ := clear.count
  have settled := balanced.settled
  simp only [List.count_append, opens, closes, Nat.zero_add] at settled
  refine ⟨settled, fun front leads => ?_⟩
  have upTo := balanced.upTo (other ++ front) ((List.prefix_append_right_inj other).2 leads)
  simpa only [List.count_append, opens, closes, Nat.zero_add] using upTo

/-- And so it can behind. -/
theorem of_append_right (clear : Unbracketed other) (balanced : Balanced depth (text ++ other)) :
    Balanced depth text := by
  obtain ⟨opens, closes⟩ := clear.count
  have settled := balanced.settled
  simp only [List.count_append, opens, closes, Nat.add_zero] at settled
  exact ⟨settled, fun front leads => balanced.upTo front (leads.trans (List.prefix_append text other))⟩

theorem strip (balanced : Balanced depth text) : Balanced depth text.strip := by
  obtain ⟨front, back, whole, blanks, blanks'⟩ := exists_strip text
  rw [whole] at balanced
  exact (balanced.of_append_left (.of_blanks blanks)).of_append_right (.of_blanks blanks')

theorem join {texts : List Text} (balanced : ∀ text ∈ texts, Balanced depth text) :
    Balanced depth (joinWith [' '] texts) := by
  induction texts with
  | nil => exact nil depth
  | cons text texts ih =>
    rw [List.forall_mem_cons] at balanced
    cases texts with
    | nil => simpa [joinWith] using balanced.1
    | cons other texts =>
      rw [joinWith_cons_cons]
      exact balanced.1.append ((of_unbracketed (by decide) depth).append (ih balanced.2))

theorem flatten {texts : List Text} (balanced : ∀ text ∈ texts, Balanced depth text) :
    Balanced depth texts.flatten := by
  induction texts with
  | nil => exact nil depth
  | cons text texts ih =>
    rw [List.forall_mem_cons] at balanced
    exact balanced.1.append (ih balanced.2)

end Balanced

end SexprCall.Text
