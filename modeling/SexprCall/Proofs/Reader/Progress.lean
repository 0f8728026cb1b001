import SexprCall.Proofs.Reader.Memory
import SexprCall.Proofs.Reader.Outcomes
import SexprCall.Proofs.Reader.Recursion

/-! Progress from call to call. Each call for a node moves the reader on, also where it fails, until the
end of the source is reached for good; and the tokens that the calls use up are those of the source, each
of them once. -/
namespace SexprCall

inductive Cursor.Passes : Cursor → List Token → Cursor → Prop where
  | nil {cursor} : Passes cursor [] cursor
  | cons {cursor middle token tokens after} : cursor.next? = some (token, middle) →
      Passes middle tokens after → Passes cursor (token :: tokens) after

namespace Cursor

theorem Passes.append {first middle last : Cursor} {tokens others : List Token}
    (passes : Passes first tokens middle) (later : Passes middle others last) :
    Passes first (tokens ++ others) last := by
  induction passes with
  | nil => exact later
  | cons found _ ih => exact .cons found (ih later)

theorem Passes.tokens {first last : Cursor} {tokens : List Token}
    (passes : Passes first tokens last) : first.tokens = tokens ++ last.tokens := by
  induction passes with
  | nil => rfl
  | cons found _ ih => rw [tokens_of_next? found, ih, List.cons_append]

/-- The offset of a cursor and what is left make up the source. -/
theorem StandsIn.offset {src : Text} {cursor : Cursor} (stands : cursor.StandsIn src) :
    cursor.position.offset + cursor.rest.length = src.length := by
  obtain ⟨offset, boundary, rfl⟩ := stands
  have within := boundary.within
  rw [past_position_offset within, past, List.length_drop]
  omega

end Cursor

namespace Reader

open Cursor

theorem passes_pull (reader : Reader) :
    Passes reader.cursor reader.pull.tokens reader.pull.reader.cursor := by
  fun_induction pull reader with
  | case1 => exact .nil
  | case2 reader token after found | case3 reader token after found => exact .cons found .nil
  | case4 reader token after found opened taken later ih => exact .cons found ih

/-- The tokens that reading uses up lead to where it stops. -/
theorem passes_readAll (reader : Reader) :
    Passes reader.cursor reader.readAll.tokens reader.readAll.reader.cursor := by
  have passes := passes_pull reader
  fun_induction readAll reader with
  | case1 reader tokens error after pulled | case2 reader tokens after pulled =>
    rw [pulled] at passes
    rwa [Reading.tokens, filterMap_token?_token]
  | case3 reader tokens node after pulled later ih =>
    rw [pulled] at passes
    have whole := passes.append (ih (passes_pull after))
    rwa [Reading.tokens, List.filterMap_append, filterMap_token?_token]

theorem exists_passes_ask (reader : Reader) (request : Request) :
    ∃ tokens, Passes reader.cursor tokens (reader.ask request).2.cursor := by
  cases request with
  | next => exact ⟨_, passes_pull reader⟩
  | rest => exact ⟨_, passes_readAll reader⟩
  | token =>
    cases found : reader.cursor.next? with
    | none => exact ⟨[], by simpa [ask, next_of_next?_none found] using Passes.nil⟩
    | some pair => exact ⟨[pair.1], by simpa [ask, next_of_next? found] using Passes.cons found .nil⟩

/-- Requests leave a way behind them, without requests there is none. -/
theorem exists_passes_session (reader : Reader) (requests : List Request) :
    ∃ tokens, Passes reader.cursor tokens (reader.session requests).2.cursor ∧
      (requests = [] → tokens = []) := by
  induction requests generalizing reader with
  | nil => exact ⟨[], .nil, fun _ => rfl⟩
  | cons request requests ih =>
    obtain ⟨tokens, passes⟩ := exists_passes_ask reader request
    obtain ⟨others, rest, -⟩ := ih (reader.ask request).2
    exact ⟨tokens ++ others, passes.append rest, by simp⟩

def called (reader : Reader) : Nat → Reader
  | 0 => reader
  | calls + 1 => (reader.called calls).next.2

/-- The tokens that so many calls use up, in a row. -/
def usedUp (reader : Reader) (calls : Nat) : List Token :=
  (List.range calls).flatMap fun call => (reader.called call).pull.tokens

theorem usedUp_succ (reader : Reader) (calls : Nat) :
    reader.usedUp (calls + 1) = reader.usedUp calls ++ (reader.called calls).pull.tokens := by
  simp [usedUp, List.range_succ]

theorem passes_called (reader : Reader) (calls : Nat) :
    Passes reader.cursor (reader.usedUp calls) (reader.called calls).cursor := by
  induction calls with
  | zero => exact .nil
  | succ calls ih =>
    rw [usedUp_succ]
    exact ih.append (passes_pull (reader.called calls))

theorem next_end_iff {reader : Reader} : reader.next.1 = .ok .endOfInput ↔ reader.outcomes = [] := by
  constructor
  · exact fun ended => outcomes_of_end (outcome_of_next_end ended)
  · intro none
    rcases reader.next_outcomes with ⟨-, ended, -⟩ | some
    · exact ended
    · simp [some] at none

/-- A call takes the first outcome away. -/
theorem outcomes_called (reader : Reader) (calls : Nat) :
    (reader.called calls).outcomes = reader.outcomes.drop calls := by
  induction calls with
  | zero => rfl
  | succ calls ih =>
    rw [← List.tail_drop, ← ih, called]
    rcases (reader.called calls).next_outcomes with ⟨none, -, used⟩ | some
    · rw [none, used, List.tail_nil]
    · rw [some, List.tail_cons]

/-- So the calls give the end of input from some call on, and then always. -/
theorem next_called_end_iff (reader : Reader) (calls : Nat) :
    (reader.called calls).next.1 = .ok .endOfInput ↔ reader.outcomes.length ≤ calls := by
  rw [next_end_iff, outcomes_called, List.drop_eq_nil_iff]

theorem rest_of_next_end {reader : Reader} (ended : reader.next.1 = .ok .endOfInput) :
    reader.next.2.cursor.rest = [] :=
  rest_of_pull_end (outcome_of_next_end ended)

variable {src : Text} {reader : Reader}

/-- Without open forms, only the end of input is given where nothing is left. -/
theorem rest_ne_nil_of_next (closed : reader.opened = [])
    (more : reader.next.1 ≠ .ok .endOfInput) : reader.cursor.rest ≠ [] := by
  intro used
  apply more
  rw [next, pull_of_rest_nil used, closed]
  rfl

/-- Before the end of input each call reads on, be it to an error. -/
theorem next_offset (stands : reader.cursor.StandsIn src) (closed : reader.opened = []) :
    reader.next.1 = .ok .endOfInput ∧ reader.next.2.cursor.position.offset = src.length ∨
      reader.next.1 ≠ .ok .endOfInput ∧
        reader.cursor.position.offset < reader.next.2.cursor.position.offset := by
  have before := stands.offset
  have after : reader.next.2.cursor.position.offset + reader.next.2.cursor.rest.length = src.length :=
    (standsIn_pull stands).offset
  by_cases ended : reader.next.1 = .ok .endOfInput
  · rw [rest_of_next_end ended, List.length_nil] at after
    exact .inl ⟨ended, after⟩
  · have shorter : reader.next.2.cursor.rest.length < reader.cursor.rest.length :=
      pull_rest_lt (rest_ne_nil_of_next closed ended)
    exact .inr ⟨ended, by omega⟩

/-- There is a character for each outcome. -/
theorem length_outcomes_le (reader : Reader) (closed : reader.opened = []) :
    reader.outcomes.length ≤ reader.cursor.rest.length := by
  rcases reader.next_outcomes with ⟨none, -⟩ | some
  · rw [none]
    exact Nat.zero_le _
  · have more : reader.next.1 ≠ .ok .endOfInput := by
      intro ended
      simp [next_end_iff.1 ended] at some
    have shorter : reader.next.2.cursor.rest.length < reader.cursor.rest.length :=
      pull_rest_lt (rest_ne_nil_of_next closed more)
    have rest := length_outcomes_le reader.next.2 (opened_pull reader)
    rw [some, List.length_cons]
    omega
termination_by reader.cursor.rest.length

/-- When a call has given the end of input, all tokens are used up. -/
theorem usedUp_of_end {calls : Nat} (ended : (reader.called calls).next.1 = .ok .endOfInput) :
    reader.usedUp (calls + 1) = reader.cursor.tokens := by
  have passes := passes_called reader (calls + 1)
  have used : (reader.called (calls + 1)).cursor.rest = [] := rest_of_next_end ended
  rw [passes.tokens, tokens_of_next?_none (next?_eq_none.2 used), List.append_nil]

/-- After any requests, a call for a node gives the end of input and the source is used up, or it reads
on. So no more calls than there are characters left give anything else. What the requests and then the
calls have used up is, with the end of input, all the tokens of the source. By recursive descent a call
gives the same, and the recursion ends: all that a form or a turn of the loop over its cells waits for
begins with less of the source left. -/
theorem session_progress (src : Text) (requests : List Request) :
    let reader := ((ofText src).session requests).2
    let offset (reader : Reader) := reader.cursor.position.offset
    (reader.next.1 = .ok .endOfInput ∧ offset reader.next.2 = src.length ∨
      reader.next.1 ≠ .ok .endOfInput ∧ offset reader < offset reader.next.2) ∧
    (∃ count, offset reader + count ≤ src.length ∧
      ∀ calls, (reader.called calls).next.1 = .ok .endOfInput ↔ count ≤ calls) ∧
    (∃ before, Passes (.ofText src) before reader.cursor ∧ (requests = [] → before = []) ∧
      ∀ calls, let now := reader.called calls
        Passes now.cursor now.pull.tokens now.next.2.cursor ∧
        (now.next.1 = .ok .endOfInput → before ++ reader.usedUp (calls + 1) = tokenize src)) ∧
    (∀ result after, Descent.ReadsNode ⟨reader.cursor, 0⟩ result after ↔
      after.depth = 0 ∧ reader.next = (result, ⟨after.cursor, []⟩)) ∧
    (∀ call : Descent.Call, call.Ends) ∧
    ∀ call inner, Descent.Makes call inner → inner.left < call.left := by
  intro reader offset
  have start : (ofText src).cursor.StandsIn src := ⟨0, .zero src, (past_zero src).symm⟩
  obtain ⟨stands, closed⟩ := standsIn_session start rfl requests
  have same : reader = ⟨reader.cursor, []⟩ := by rw [← closed]
  refine ⟨next_offset stands closed, ?_, ?_, ?_, Descent.Call.ends, fun _ _ makes => makes.left_lt⟩
  · have bound := length_outcomes_le reader closed
    have whole : offset reader + reader.cursor.rest.length = src.length := stands.offset
    exact ⟨reader.outcomes.length, by omega, next_called_end_iff reader⟩
  · obtain ⟨before, passes, first⟩ := exists_passes_session (ofText src) requests
    refine ⟨before, passes, first, fun calls => ⟨passes_pull _, fun ended => ?_⟩⟩
    rw [usedUp_of_end ended, ← passes.tokens]
    rfl
  · intro result after
    rw [Descent.readsNode_iff, ← same]

end Reader
end SexprCall
