import SexprCall.Text.Newline

/-! Texts with one line ending or another. Unifying takes each of them back to the line feed. -/
namespace SexprCall.Text

def lineEndings : List Text := [['\n'], ['\r', '\n'], ['\r']]

/-- The text with another ending in place of each line feed. -/
def withEndings (text ending : Text) : Text :=
  text.flatMap fun c => if c = '\n' then ending else [c]

theorem withEndings_cons (c : Char) (text ending : Text) :
    withEndings (c :: text) ending =
      (if c = '\n' then ending else [c]) ++ withEndings text ending := List.flatMap_cons

theorem withEndings_feed (text : Text) : withEndings text ['\n'] = text := by
  induction text with
  | nil => rfl
  | cons c text ih =>
    rw [withEndings_cons, ih]
    by_cases feed : c = '\n' <;> simp [feed]

/-- A return in front takes a line feed away, so there is none unless the ending is the return. -/
theorem unifyNewlinesAfter_withEndings {ending text : Text} (member : ending ∈ lineEndings)
    (plain : '\r' ∉ text) {afterReturn : Bool} (lone : ending = ['\n'] → afterReturn = false) :
    unifyNewlinesAfter afterReturn (withEndings text ending) = text := by
  induction text generalizing afterReturn with
  | nil => rfl
  | cons c text ih =>
    rw [List.mem_cons, not_or] at plain
    obtain ⟨other, plain⟩ := plain
    rw [withEndings_cons]
    by_cases feed : c = '\n'
    · subst feed
      simp only [lineEndings, List.mem_cons, List.not_mem_nil, or_false] at member
      rcases member with rfl | rfl | rfl
      · simp [unifyNewlinesAfter, lone rfl, ih plain]
      · simp [unifyNewlinesAfter, ih plain]
      · simp [unifyNewlinesAfter, ih plain]
    · simp [unifyNewlinesAfter, feed, Ne.symm other, ih plain]

theorem unifyNewlines_withEndings {ending text : Text} (member : ending ∈ lineEndings)
    (plain : '\r' ∉ text) : (withEndings text ending).unifyNewlines = text :=
  unifyNewlinesAfter_withEndings member plain fun _ => rfl

/-- Without carriage returns there is nothing to unify. -/
theorem unifyNewlines_eq_self {text : Text} (plain : '\r' ∉ text) : text.unifyNewlines = text := by
  have fed := unifyNewlines_withEndings List.mem_cons_self plain
  rwa [withEndings_feed] at fed

/-- One line feed in place of each pair of a return and a feed. -/
def joinPairs : Text → Text
  | [] => []
  | '\r' :: '\n' :: rest => '\n' :: joinPairs rest
  | c :: rest => c :: joinPairs rest

def feedReturns (text : Text) : Text := text.map fun c => if c = '\r' then '\n' else c

/-- After a return that is not followed by a feed, it makes no difference that it was there. -/
theorem unifyNewlinesAfter_return {text : Text} (lone : ∀ rest, text ≠ '\n' :: rest) :
    unifyNewlinesAfter true text = unifyNewlinesAfter false text := by
  cases text with
  | nil => rfl
  | cons c rest =>
    have other : c ≠ '\n' := fun feed => lone rest (congrArg (· :: rest) feed)
    simp [unifyNewlinesAfter, other]

/-- First the pairs are joined, then each return that is left becomes a feed. -/
theorem unifyNewlines_eq (text : Text) : text.unifyNewlines = feedReturns (joinPairs text) := by
  unfold unifyNewlines
  fun_induction joinPairs text with
  | case1 => rfl
  | case2 rest ih => simp [unifyNewlinesAfter, feedReturns, ih]
  | case3 c rest single ih =>
    by_cases returned : c = '\r'
    · have lone : ∀ later, rest ≠ '\n' :: later := fun later feed => single later returned feed
      simp [unifyNewlinesAfter, feedReturns, returned, unifyNewlinesAfter_return lone, ih]
    · simp [unifyNewlinesAfter, feedReturns, returned, ih]

theorem not_mem_unifyNewlines (text : Text) : '\r' ∉ text.unifyNewlines := by
  unfold unifyNewlines
  fun_induction unifyNewlinesAfter false text with
  | case1 => simp
  | case2 flag rest ih => simpa using ih
  | case3 flag c rest other feed ih => exact ih
  | case4 flag c rest other kept ih => simpa [Ne.symm other] using ih

end SexprCall.Text
