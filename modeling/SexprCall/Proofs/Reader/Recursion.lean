import SexprCall.Proofs.Reader.Descent

/-! The recursion of reading by descent. Reading a form waits for the forms among its cells and for the
loop over its tail, and each turn of the loop for a form and for the turn after it. Whatever is waited
for begins with less of the source left, so every descent comes to a result. -/
namespace SexprCall.Descent

open Grammar

def left (descent : Descent) : Nat := descent.cursor.rest.length

theorem next_left {cursor after : Cursor} {token : Token} (next : cursor.next = (token, after)) :
    after.rest.length ≤ cursor.rest.length ∧
      (token.kind ≠ .endOfInput → after.rest.length < cursor.rest.length) := by
  cases found : cursor.next? with
  | none =>
    obtain ⟨rfl, rfl⟩ := Prod.mk.inj ((Cursor.next_of_next?_none found).symm.trans next)
    exact ⟨Nat.le_refl _, fun more => absurd rfl more⟩
  | some pair =>
    obtain ⟨rfl, rfl⟩ := Prod.mk.inj ((Cursor.next_of_next? found).symm.trans next)
    have shorter := Cursor.rest_lt_of_next? found
    exact ⟨Nat.le_of_lt shorter, fun _ => shorter⟩

theorem Skips.left {cursor after : Cursor} {token : Token} (skips : Skips cursor token after) :
    after.rest.length ≤ cursor.rest.length ∧
      (token.kind ≠ .endOfInput → after.rest.length < cursor.rest.length) := by
  induction skips with
  | means next _ => exact next_left next
  | trivia next trivia _ ih =>
    obtain ⟨most, less⟩ := next_left next
    exact ⟨Nat.le_trans ih.1 most, fun more => Nat.lt_of_lt_of_le (ih.2 more) most⟩

/-- A token that may come next has characters, the end of input has none. -/
theorem Expects.left {before after : Descent} {result : Except ReadError Token}
    (expects : Expects before result after) :
    after.left ≤ before.left ∧ ∀ token, result = .ok token → after.left < before.left := by
  cases expects with
  | @allowed token _ skips allowed =>
    have more : token.kind ≠ .endOfInput := by
      intro ended
      simp [ended, formKinds] at allowed
    exact ⟨skips.left.1, fun _ _ => skips.left.2 more⟩
  | refused skips _ => exact ⟨skips.left.1, by simp⟩

theorem Expects.left_lt {before after : Descent} {token : Token}
    (expects : Expects before (.ok token) after) : after.left < before.left :=
  expects.left.2 token rfl

/-- Nothing that is read is given back, also where reading fails. -/
theorem ReadsForm.left_le {opening : Token} {before after : Descent}
    {result : Except ReadError Node} (reads : ReadsForm opening before result after) :
    after.left ≤ before.left := by
  refine @ReadsForm.rec
    (fun _ before _ after _ => after.left ≤ before.left)
    (fun _ before _ after _ => after.left ≤ before.left)
    (fun before _ after _ => after.left ≤ before.left)
    (fun _ before _ after _ => after.left ≤ before.left)
    ?tooDeep ?reads ?fails ?emptyList ?headFails ?tailFails ?form
    ?expectFails ?closes ?cellFails ?restFails ?cons ?cellForm ?atom _ _ _ _ reads
  case tooDeep => exact fun _ => Nat.le_refl _
  case reads => exact fun _ _ inside => inside
  case fails | expectFails => exact fun expects => expects.left.1
  case emptyList | closes => exact fun expects _ => expects.left.1
  case headFails | cellFails =>
    exact fun expects _ _ cell => Nat.le_trans cell expects.left.1
  case tailFails | form | restFails | cons =>
    exact fun expects _ _ _ cell rest => Nat.le_trans rest (Nat.le_trans cell expects.left.1)
  case cellForm => exact fun _ _ form => form
  case atom => exact fun _ => Nat.le_refl _

theorem ReadsCell.left_le {first : Token} {before after : Descent}
    {result : Except ReadError Node} (reads : ReadsCell first before result after) :
    after.left ≤ before.left := by
  cases reads with
  | form _ reads => exact reads.left_le
  | atom => exact Nat.le_refl _

/-- What recursion is about: a form from its opening parenthesis on, or a turn of the loop over cells. -/
inductive Call where
  | form (opening : Token) (before : Descent)
  | turn (before : Descent)

namespace Call

def left : Call → Nat
  | form _ before | turn before => before.left

def Ends : Call → Prop
  | form opening before => ∃ result after, ReadsForm opening before result after
  | turn before => ∃ result after, ReadsTail before result after

end Call

/-- The first call waits for the second, which it makes. -/
inductive Makes : Call → Call → Prop where
  | head {opening before first middle} : before.depth + 1 ≤ maxDepth →
      Expects ⟨before.cursor, before.depth + 1⟩ (.ok first) middle → first.kind = .openParen →
      Makes (.form opening before) (.form first middle)
  | tail {opening before first middle head later} : before.depth + 1 ≤ maxDepth →
      Expects ⟨before.cursor, before.depth + 1⟩ (.ok first) middle → first.kind ≠ .closeParen →
      ReadsCell first middle (.ok head) later → Makes (.form opening before) (.turn later)
  | cell {before first middle} : Expects before (.ok first) middle → first.kind = .openParen →
      Makes (.turn before) (.form first middle)
  | next {before first middle cell later} : Expects before (.ok first) middle →
      first.kind ≠ .closeParen → ReadsCell first middle (.ok cell) later →
      Makes (.turn before) (.turn later)

/-- A token in between has been read. -/
theorem Makes.left_lt {call inner : Call} (makes : Makes call inner) : inner.left < call.left := by
  cases makes with
  | head _ expects _ => exact expects.left_lt
  | tail _ expects _ cell => exact Nat.lt_of_le_of_lt cell.left_le expects.left_lt
  | cell expects _ => exact expects.left_lt
  | next expects _ cell => exact Nat.lt_of_le_of_lt cell.left_le expects.left_lt

theorem exists_skips (cursor : Cursor) : ∃ token after, Skips cursor token after := by
  induction cursor using Cursor.induction_next with
  | used cursor used => exact ⟨_, _, .means (Cursor.next_of_next?_none used) rfl⟩
  | more cursor token after found ih =>
    have next := Cursor.next_of_next? found
    cases trivia : token.kind.isTrivia with
    | false => exact ⟨_, _, .means next trivia⟩
    | true =>
      obtain ⟨later, last, skips⟩ := ih
      exact ⟨later, last, .trivia next trivia skips⟩

theorem exists_expects (before : Descent) : ∃ result after, Expects before result after := by
  obtain ⟨token, cursor, skips⟩ := exists_skips before.cursor
  by_cases allowed : token.kind ∈ formKinds
  · exact ⟨_, _, .allowed skips allowed⟩
  · exact ⟨_, _, .refused skips allowed⟩

/-- The inside of a form is read like a tail: with cells, these are its head and its tail. -/
theorem ReadsTail.inside {before after : Descent} {result : Except ReadError (List Node × Token)}
    (reads : ReadsTail before result after) (opening : Token) :
    ∃ result, ReadsInside opening before result after := by
  cases reads with
  | fails expects => exact ⟨_, .fails expects⟩
  | closes expects closes => exact ⟨_, .emptyList expects closes⟩
  | cellFails expects inner cell => exact ⟨_, .headFails expects inner cell⟩
  | restFails expects inner cell rest => exact ⟨_, .tailFails expects inner cell rest⟩
  | cons expects inner cell rest => exact ⟨_, .form expects inner cell rest⟩

namespace Call

/-- The loop waits for nothing but the calls that it makes. -/
theorem turn_ends {before : Descent} (inner : ∀ call, Makes (.turn before) call → call.Ends) :
    (turn before).Ends := by
  obtain ⟨expected, middle, expects⟩ := exists_expects before
  rcases expected with error | first
  · exact ⟨_, _, .fails expects⟩
  by_cases closes : first.kind = .closeParen
  · exact ⟨_, _, .closes expects closes⟩
  have cell : ∃ result later, ReadsCell first middle result later := by
    by_cases opens : first.kind = .openParen
    · obtain ⟨result, later, reads⟩ := inner (.form first middle) (.cell expects opens)
      exact ⟨result, later, .form opens reads⟩
    · exact ⟨_, _, .atom opens⟩
  obtain ⟨error | node, later, reads⟩ := cell
  · exact ⟨_, _, .cellFails expects closes reads⟩
  obtain ⟨error | ⟨cells, closing⟩, after, rest⟩ := inner (.turn later) (.next expects closes reads)
  · exact ⟨_, _, .restFails expects closes reads rest⟩
  · exact ⟨_, _, .cons expects closes reads rest⟩

/-- A form makes the calls that the loop would make in its place, one level deeper. -/
theorem form_ends {opening : Token} {before : Descent}
    (inner : ∀ call, Makes (.form opening before) call → call.Ends) :
    (form opening before).Ends := by
  by_cases room : before.depth + 1 ≤ maxDepth
  · have loop : (turn ⟨before.cursor, before.depth + 1⟩).Ends := by
      apply turn_ends
      intro call makes
      apply inner
      cases makes with
      | cell expects opens => exact .head room expects opens
      | next expects closes cell => exact .tail room expects closes cell
    obtain ⟨_, after, cells⟩ := loop
    obtain ⟨result, inside⟩ := cells.inside opening
    exact ⟨result, _, .reads room inside⟩
  · exact ⟨_, _, .tooDeep (Nat.lt_of_not_le room)⟩

/-- Every call ends, because what it waits for has less to read. -/
theorem ends (call : Call) : call.Ends := by
  have inner (later : Call) (makes : Makes call later) : later.Ends := later.ends
  cases call with
  | form opening before => exact form_ends inner
  | turn before => exact turn_ends inner
termination_by call.left
decreasing_by exact makes.left_lt

end Call

theorem exists_readsNode (before : Descent) : ∃ result after, ReadsNode before result after := by
  obtain ⟨token, cursor, skips⟩ := exists_skips before.cursor
  by_cases ended : token.kind = .endOfInput
  · exact ⟨_, _, .ended skips ended⟩
  by_cases opens : token.kind = .openParen
  · obtain ⟨result, after, reads⟩ := (Call.form token ⟨cursor, before.depth⟩).ends
    exact ⟨result, after, .form skips opens reads⟩
  · exact ⟨_, _, .unsupported skips ended opens⟩

end SexprCall.Descent
