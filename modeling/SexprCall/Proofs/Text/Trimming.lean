import SexprCall.Text.Basic
import SexprCall.Text.Blank

/-! Stripping takes from a text the blanks at its ends. Where there is none but a line feed in front,
it takes no more than that. -/
namespace SexprCall.Text

theorem joinWith_cons_cons (separator text other : Text) (texts : List Text) :
    joinWith separator (text :: other :: texts) =
      text ++ (separator ++ joinWith separator (other :: texts)) := by
  rw [joinWith, List.intercalate_cons_cons, List.append_assoc]
  rfl

/-- Joined texts have no characters but their own and those of the separator. -/
theorem joinWith_subset {separator all : Text} {texts : List Text} (apart : separator ⊆ all)
    (inside : ∀ text ∈ texts, text ⊆ all) : joinWith separator texts ⊆ all := by
  induction texts with
  | nil => exact List.nil_subset _
  | cons text texts ih =>
    rw [List.forall_mem_cons] at inside
    cases texts with
    | nil => simpa [joinWith] using inside.1
    | cons other texts =>
      rw [joinWith_cons_cons]
      exact List.append_subset.2 ⟨inside.1, List.append_subset.2 ⟨apart, ih inside.2⟩⟩

theorem strip_subset (text : Text) : strip text ⊆ text := by
  have left (text : Text) : stripLeft text ⊆ text := (List.dropWhile_sublist _).subset
  intro c member
  rw [strip, stripRight, List.mem_reverse] at member
  exact left _ (List.mem_reverse.1 (left _ member))

theorem exists_stripLeft (text : Text) :
    ∃ front, text = front ++ stripLeft text ∧ ∀ c ∈ front, isBlank c = true :=
  ⟨text.takeWhile isBlank, List.takeWhile_append_dropWhile.symm,
    fun c member => List.all_eq_true.1 List.all_takeWhile c member⟩

/-- What stripping takes is blank. -/
theorem exists_strip (text : Text) :
    ∃ front back, text = front ++ (strip text ++ back) ∧ (∀ c ∈ front, isBlank c = true) ∧
      ∀ c ∈ back, isBlank c = true := by
  obtain ⟨front, whole, blanks⟩ := exists_stripLeft text
  obtain ⟨back, reversed, blanks'⟩ := exists_stripLeft (stripLeft text).reverse
  refine ⟨front, back.reverse, ?_, blanks, by simpa using blanks'⟩
  have rest := congrArg List.reverse reversed
  rw [List.reverse_reverse, List.reverse_append] at rest
  rw [strip, stripRight, ← rest]
  exact whole

structure Trimmed (text : Text) : Prop where
  first : ∀ c ∈ text.head?, isBlank c = false
  last : ∀ c ∈ text.getLast?, isBlank c = false

instance (text : Text) : Decidable (Trimmed text) :=
  decidable_of_iff (text.head?.all (!isBlank ·) ∧ text.getLast?.all (!isBlank ·)) <| by
    simp only [Option.all_eq_true, Bool.not_eq_true']
    exact ⟨fun ends => ⟨ends.1, ends.2⟩, fun trimmed => ⟨trimmed.first, trimmed.last⟩⟩

theorem Trimmed.of_ends {text : Text} {first last : Char} (front : text.head? = some first)
    (back : text.getLast? = some last) (solid : isBlank first = false)
    (solid' : isBlank last = false) : Trimmed text := by
  constructor
  · intro c same
    obtain rfl : first = c := Option.some.inj (front.symm.trans same)
    exact solid
  · intro c same
    obtain rfl : last = c := Option.some.inj (back.symm.trans same)
    exact solid'

theorem stripLeft_eq_self {text : Text} (first : ∀ c ∈ text.head?, isBlank c = false) :
    stripLeft text = text := by
  cases text with
  | nil => rfl
  | cons c text => exact List.dropWhile_cons_of_neg (by simp [first c rfl])

theorem stripRight_eq_self {text : Text} (last : ∀ c ∈ text.getLast?, isBlank c = false) :
    stripRight text = text := by
  rw [stripRight, stripLeft_eq_self, List.reverse_reverse]
  rwa [List.head?_reverse]

theorem Trimmed.strip {text : Text} (trimmed : Trimmed text) : text.strip = text := by
  rw [Text.strip, stripLeft_eq_self trimmed.first, stripRight_eq_self trimmed.last]

theorem Trimmed.append {left right : Text} (first : ∀ c ∈ left.head?, isBlank c = false)
    (some : left ≠ []) (last : ∀ c ∈ right.getLast?, isBlank c = false) (more : right ≠ []) :
    Trimmed (left ++ right) := by
  constructor
  · intro c front
    cases left with
    | nil => exact absurd rfl some
    | cons _ _ => exact first c front
  · intro c back
    rw [List.getLast?_append, List.getLast?_eq_some_getLast more] at back
    exact last c (by rwa [List.getLast?_eq_some_getLast more])

/-- A trimmed text that is not empty, after a line feed if `feed` says so. -/
inductive Lined : (feed : Bool) → Text → Prop where
  | plain {body} : body ≠ [] → Trimmed body → Lined false body
  | feed {body} : body ≠ [] → Trimmed body → Lined true ('\n' :: body)

namespace Lined

variable {feed : Bool} {text more : Text}

theorem ne_nil (lined : Lined feed text) : text ≠ [] := by
  cases lined with
  | plain some => exact some
  | feed => exact List.cons_ne_nil _ _

theorem last (lined : Lined feed text) : ∀ c ∈ text.getLast?, isBlank c = false := by
  cases lined with
  | plain _ trimmed => exact trimmed.last
  | feed some trimmed =>
    rw [List.getLast?_cons_of_ne_nil some]
    exact trimmed.last

/-- What comes after it changes nothing in front. -/
theorem append (lined : Lined feed text) (last : ∀ c ∈ more.getLast?, isBlank c = false)
    (some : more ≠ []) : Lined feed (text ++ more) := by
  cases lined with
  | plain nonempty trimmed =>
    exact .plain (List.append_ne_nil_of_left_ne_nil nonempty _)
      (.append trimmed.first nonempty last some)
  | feed nonempty trimmed =>
    exact .feed (List.append_ne_nil_of_left_ne_nil nonempty _)
      (.append trimmed.first nonempty last some)

/-- Stripping takes the line feed. -/
theorem strip (lined : Lined feed text) : text.strip = if feed then text.tail else text := by
  cases lined with
  | plain _ trimmed => exact trimmed.strip
  | @feed body some trimmed =>
    have left : stripLeft ('\n' :: body) = body :=
      (List.dropWhile_cons_of_pos (by decide)).trans (stripLeft_eq_self trimmed.first)
    rw [Text.strip, left]
    exact stripRight_eq_self trimmed.last

/-- The line feed is all that stripping takes. -/
theorem eq_strip (lined : Lined feed text) :
    text = if feed then '\n' :: text.strip else text.strip := by
  rw [lined.strip]
  cases lined <;> rfl

/-- Joined with spaces, such texts begin like the first of them. -/
theorem join {texts : List Text} (lined : Lined feed text)
    (others : ∀ other ∈ texts, ∃ feed, Lined feed other) :
    Lined feed (joinWith [' '] (text :: texts)) := by
  induction texts generalizing feed text with
  | nil => simpa [joinWith] using lined
  | cons other texts ih =>
    obtain ⟨otherFeed, second⟩ := others other List.mem_cons_self
    have rest := ih second fun text member => others text (List.mem_cons_of_mem _ member)
    rw [joinWith_cons_cons]
    refine lined.append ?_ (List.cons_ne_nil _ _)
    intro c back
    rw [List.singleton_append, List.getLast?_cons_of_ne_nil rest.ne_nil] at back
    exact rest.last c back

end Lined

end SexprCall.Text
