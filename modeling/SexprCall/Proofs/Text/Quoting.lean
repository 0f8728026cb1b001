import SexprCall.Text.Quoted

/-! Quoted texts have printable characters only, whatever they quote, and so have numbers. -/
namespace SexprCall.Text

/-- Nothing in the text ends a line or does not show. -/
def Printable (text : Text) : Prop := ∀ c ∈ text, isPrintable c = true

instance (text : Text) : Decidable (Printable text) :=
  List.decidableBAll _ text

namespace Printable

variable {text other : Text} {c : Char}

theorem cons (first : isPrintable c = true) (rest : Printable text) : Printable (c :: text) :=
  List.forall_mem_cons.2 ⟨first, rest⟩

theorem singleton (shows : isPrintable c = true) : Printable [c] :=
  List.forall_mem_singleton.2 shows

theorem append (first : Printable text) (second : Printable other) : Printable (text ++ other) :=
  List.forall_mem_append.2 ⟨first, second⟩

/-- There is one line. -/
theorem feed_not_mem (printable : Printable text) : '\n' ∉ text :=
  fun member => absurd (printable '\n' member) (by decide)

theorem leftpad (printable : Printable text) (width : Nat) : Printable (text.leftpad width '0') := by
  refine append (fun c member => ?_) printable
  obtain rfl : c = '0' := List.eq_of_mem_replicate member
  decide

end Printable

theorem isPrintable_digitChar (n : Nat) : isPrintable n.digitChar = true := by
  rcases Nat.lt_or_ge n 16 with digit | none
  · revert n
    decide
  · rw [Nat.digitChar_eq_star.2 none]
    decide

theorem printable_toDigits {base : Nat} (more : 1 < base) (n : Nat) :
    Printable (Nat.toDigits base n) := by
  induction n using Nat.strongRecOn with
  | ind n ih =>
    rw [Nat.toDigits_eq_if more]
    split
    · exact .singleton (isPrintable_digitChar n)
    · rename_i large
      have smaller : n / base < n := Nat.div_lt_self (by omega) more
      exact .append (ih _ smaller) (.singleton (isPrintable_digitChar _))

theorem printable_twoDigits (n : Nat) : Printable (twoDigits n) :=
  (printable_toDigits (by decide) n).leftpad 2

theorem printable_codeEscape (c : Char) : Printable (codeEscape c) := by
  have hexadecimal (width : Nat) : Printable (hex width c.toNat) :=
    (printable_toDigits (by decide) c.toNat).leftpad width
  unfold codeEscape
  repeat' split
  all_goals exact .cons (by decide) (.cons (by decide) (hexadecimal _))

theorem printable_escape {mark : Char} (shows : isPrintable mark = true) (c : Char) :
    Printable (escape mark c) := by
  unfold escape
  split
  · rename_i marked
    refine .cons (by decide) (.singleton ?_)
    rcases marked with rfl | rfl
    · decide
    · exact shows
  split
  · decide
  split
  · decide
  split
  · decide
  split
  · exact .singleton ‹_›
  · exact printable_codeEscape c

theorem isPrintable_enclosing (text : Text) : isPrintable (enclosing text) = true := by
  unfold enclosing
  split <;> decide

theorem printable_quoted (text : Text) : Printable (quoted text) := by
  have mark := isPrintable_enclosing text
  refine .append (.cons mark fun c member => ?_) (.singleton mark)
  obtain ⟨quotedChar, -, within⟩ := List.mem_flatMap.1 member
  exact printable_escape mark quotedChar c within

end SexprCall.Text
