import SexprCall.Proofs.Reader.Agreement
import SexprCall.Proofs.Reader.Shift

/-! What a reader keeps from call to call: where its cursor stands, between two tokens, and nothing
else. Whatever it was asked before and whichever errors it met, it goes on like a new reader over what
is left of the source. -/
namespace SexprCall

/-- An offset between two tokens of a source or at an end of it: the tokens left from there are the
last of its tokens. -/
structure Cursor.Boundary (src : Text) (offset : Nat) : Prop where
  within : offset ≤ src.length
  suffix : (past src offset).tokens <:+ tokenize src

namespace Cursor.Boundary

theorem zero (src : Text) : Boundary src 0 := ⟨Nat.zero_le _, List.suffix_refl _⟩

theorem start {src : Text} {offset : Nat} (boundary : Boundary src offset) :
    offset = src.length ∨ ∃ token ∈ tokenize src, token.span.start = offset := by
  rcases Nat.eq_or_lt_of_le boundary.within with used | more
  · exact .inl used
  · obtain ⟨token, found, step⟩ := next?_past more
    refine .inr ⟨token, boundary.suffix.subset ?_, step.start⟩
    rw [tokens_of_next? found]
    exact List.mem_cons_self

theorem stop {src : Text} {offset : Nat} {token : Token} {after : Cursor}
    (boundary : Boundary src offset) (found : (past src offset).next? = some (token, after)) :
    Boundary src token.span.stop ∧ after = past src token.span.stop := by
  obtain ⟨step, rfl⟩ := step_of_next? found
  have suffix := boundary.suffix
  rw [tokens_of_next? found] at suffix
  exact ⟨⟨step.stop, (List.suffix_cons _ _).trans suffix⟩, rfl⟩

end Cursor.Boundary

def Cursor.StandsIn (src : Text) (cursor : Cursor) : Prop :=
  ∃ offset, Boundary src offset ∧ cursor = past src offset

theorem Cursor.StandsIn.after {src : Text} {cursor after : Cursor} {token : Token}
    (stands : StandsIn src cursor) (found : cursor.next? = some (token, after)) :
    StandsIn src after := by
  obtain ⟨offset, boundary, rfl⟩ := stands
  exact ⟨token.span.stop, boundary.stop found⟩

namespace Reader

theorem standsIn_pull {src : Text} {reader : Reader} (stands : reader.cursor.StandsIn src) :
    reader.pull.reader.cursor.StandsIn src := by
  fun_induction pull reader with
  | case1 => exact stands
  | case2 reader token after found | case3 reader token after found => exact stands.after found
  | case4 reader token after found opened taken later ih => exact ih (stands.after found)

theorem standsIn_readAll {src : Text} {reader : Reader} (stands : reader.cursor.StandsIn src) :
    reader.readAll.reader.cursor.StandsIn src := by
  have pull := standsIn_pull stands
  fun_induction readAll reader with
  | case1 reader tokens error after pulled | case2 reader tokens after pulled =>
    rwa [pulled] at pull
  | case3 reader tokens node after pulled later ih =>
    rw [pulled] at pull
    exact ih pull (standsIn_pull pull)

/-- However a request ends, the cursor stands at a boundary. -/
theorem standsIn_ask {src : Text} {reader : Reader} (stands : reader.cursor.StandsIn src)
    (request : Request) : (reader.ask request).2.cursor.StandsIn src := by
  cases request with
  | next => exact standsIn_pull stands
  | rest => exact standsIn_readAll stands
  | token =>
    cases found : reader.cursor.next? with
    | none => simpa [ask, Cursor.next_of_next?_none found] using stands
    | some pair => simpa [ask, Cursor.next_of_next? found] using stands.after found

theorem opened_pull (reader : Reader) : reader.pull.reader.opened = [] :=
  List.length_eq_zero_iff.1 (depth_pull reader)

theorem opened_readAll (reader : Reader) : reader.readAll.reader.opened = [] := by
  have opened := opened_pull reader
  fun_induction readAll reader with
  | case1 reader tokens error after pulled | case2 reader tokens after pulled =>
    rwa [pulled] at opened
  | case3 reader tokens node after pulled later ih => exact ih (opened_pull after)

theorem opened_ask {reader : Reader} (closed : reader.opened = []) (request : Request) :
    (reader.ask request).2.opened = [] := by
  cases request with
  | next => exact opened_pull reader
  | rest => exact opened_readAll reader
  | token => exact closed

theorem exists_ask (cursor : Cursor) (request : Request) :
    ∃ reply last, ask ⟨cursor, []⟩ request = (reply, ⟨last, []⟩) := by
  have closed : (ask ⟨cursor, []⟩ request).2.opened = [] := opened_ask rfl request
  generalize ask ⟨cursor, []⟩ request = answered at closed
  obtain ⟨reply, last, opened⟩ := answered
  obtain rfl : opened = [] := closed
  exact ⟨reply, last, rfl⟩

def session (reader : Reader) : List Request → List Reply × Reader
  | [] => ([], reader)
  | request :: requests =>
    let (reply, later) := reader.ask request
    let (replies, last) := later.session requests
    (reply :: replies, last)

theorem session_cons (reader : Reader) (request : Request) (requests : List Request) :
    reader.session (request :: requests) =
      ((reader.ask request).1 :: ((reader.ask request).2.session requests).1,
        ((reader.ask request).2.session requests).2) := rfl

/-- All of this holds after any requests. -/
theorem standsIn_session {src : Text} {reader : Reader} (stands : reader.cursor.StandsIn src)
    (closed : reader.opened = []) (requests : List Request) :
    (reader.session requests).2.cursor.StandsIn src ∧ (reader.session requests).2.opened = [] := by
  induction requests generalizing reader with
  | nil => exact ⟨stands, closed⟩
  | cons request requests ih =>
    exact ih (standsIn_ask stands request) (opened_ask closed request)

end Reader

namespace Descent

open Reader

def shift (origin : Position) (descent : Descent) : Descent :=
  ⟨descent.cursor.shift origin, descent.depth⟩

inductive Asks : Descent → Request → Reply → Descent → Prop where
  | next {before result after} : ReadsNode before result after →
      Asks before .next (.node result) after
  | rest {before nodes error? after} : ReadsAll before nodes error? after →
      Asks before .rest (.nodes nodes error?) after
  | token {before token cursor} : before.cursor.next = (token, cursor) →
      Asks before .token (.token token) ⟨cursor, before.depth⟩

inductive Session : Descent → List Request → List Reply → Descent → Prop where
  | nil {before} : Session before [] [] before
  | cons {before request reply middle requests replies after} : Asks before request reply middle →
      Session middle requests replies after →
      Session before (request :: requests) (reply :: replies) after

theorem asks_iff {cursor : Cursor} {request : Request} {reply : Reply} {after : Descent} :
    Asks ⟨cursor, 0⟩ request reply after ↔
      after.depth = 0 ∧ ask ⟨cursor, []⟩ request = (reply, ⟨after.cursor, []⟩) := by
  constructor
  · rintro (reads | reads | next)
    · obtain ⟨depth, answered⟩ := readsNode_iff.1 reads
      exact ⟨depth, by rw [ask, answered]⟩
    · obtain ⟨depth, rfl, rfl, last⟩ := readsAll_iff.1 reads
      exact ⟨depth, by rw [ask, last]⟩
    · exact ⟨rfl, by simp only [ask, next]⟩
  · rintro ⟨depth, answered⟩
    obtain ⟨last, rfl⟩ := exists_cursor depth
    cases request with
    | next =>
      obtain ⟨rfl, reader⟩ := Prod.mk.inj answered
      exact .next (readsNode_iff.2 ⟨rfl, Prod.ext rfl reader⟩)
    | rest =>
      obtain ⟨rfl, reader⟩ := Prod.mk.inj answered
      exact .rest (readsAll_iff.2 ⟨rfl, rfl, rfl, reader⟩)
    | token =>
      obtain ⟨rfl, reader⟩ := Prod.mk.inj answered
      obtain rfl : cursor.next.2 = last := congrArg Reader.cursor reader
      exact .token rfl

theorem session_iff {cursor : Cursor} {requests : List Request} {replies : List Reply}
    {after : Descent} :
    Session ⟨cursor, 0⟩ requests replies after ↔
      after.depth = 0 ∧ session ⟨cursor, []⟩ requests = (replies, ⟨after.cursor, []⟩) := by
  induction requests generalizing cursor replies with
  | nil =>
    constructor
    · rintro ⟨⟩
      exact ⟨rfl, rfl⟩
    · rintro ⟨depth, ended⟩
      obtain ⟨last, rfl⟩ := exists_cursor depth
      obtain ⟨rfl, reader⟩ := Prod.mk.inj ended
      obtain rfl : cursor = last := congrArg Reader.cursor reader
      exact .nil
  | cons request requests ih =>
    obtain ⟨reply, later, asked⟩ := exists_ask cursor request
    rw [session_cons, asked]
    constructor
    · intro session
      cases session with
      | @cons _ _ _ middle _ _ _ asks rest =>
        obtain ⟨last, opened⟩ := middle
        obtain ⟨rfl, answered⟩ := asks_iff.1 asks
        obtain ⟨rfl, reader⟩ := Prod.mk.inj (asked.symm.trans answered)
        obtain rfl : later = last := congrArg Reader.cursor reader
        obtain ⟨depth, ended⟩ := ih.1 rest
        exact ⟨depth, by rw [ended]⟩
    · rintro ⟨depth, ended⟩
      obtain ⟨rfl, reader⟩ := Prod.mk.inj ended
      have first : Asks ⟨cursor, 0⟩ request reply ⟨later, 0⟩ := asks_iff.2 ⟨rfl, asked⟩
      exact .cons first (ih.2 ⟨depth, Prod.ext rfl reader⟩)

/-- Moving the source moves the reply and the cursor. -/
theorem asks_shift_iff {origin : Position} {cursor : Cursor} (row : 1 ≤ cursor.position.row)
    {request : Request} {reply : Reply} {after : Descent} :
    Asks ⟨cursor.shift origin, 0⟩ request reply after ↔
      ∃ reply' after', Asks ⟨cursor, 0⟩ request reply' after' ∧
        reply = reply'.shift origin ∧ after = after'.shift origin := by
  obtain ⟨answer, cursor', asked⟩ := exists_ask cursor request
  have moved := @ask_shift origin ⟨cursor, []⟩ row request
  rw [asks_iff]
  change _ ∧ ask ((Reader.mk cursor []).shift origin) request = _ ↔ _
  rw [moved, asked]
  constructor
  · rintro ⟨depth, ended⟩
    obtain ⟨last, rfl⟩ := exists_cursor depth
    obtain ⟨rfl, reader⟩ := Prod.mk.inj ended
    obtain rfl : cursor'.shift origin = last := congrArg Reader.cursor reader
    exact ⟨answer, ⟨cursor', 0⟩, asks_iff.2 ⟨rfl, asked⟩, rfl, rfl⟩
  · rintro ⟨reply', after', asks, rfl, rfl⟩
    obtain ⟨depth, answered⟩ := asks_iff.1 asks
    obtain ⟨rfl, reader⟩ := Prod.mk.inj (asked.symm.trans answered)
    exact ⟨depth, congrArg (fun reader => (_, Reader.shift origin reader)) reader⟩

end Descent

/-- After any requests no form is open and the cursor stands at a boundary. From there each request
is answered like by a new reader over what is left of the source, with all places moved by the
position of the boundary; the same is true of recursive descent. -/
theorem Reader.session_memoryless (src : Text) (requests : List Request) :
    ∃ offset, Cursor.Boundary src offset ∧
      (offset = src.length ∨ ∃ token ∈ tokenize src, token.span.start = offset) ∧
      ((ofText src).session requests).2 = ⟨.past src offset, []⟩ ∧
      (∀ replies now, Descent.Session ⟨.ofText src, 0⟩ requests replies now ↔
        replies = ((ofText src).session requests).1 ∧ now = ⟨.past src offset, 0⟩) ∧
      ∀ request,
        let origin := Position.start.advance (src.take offset)
        let fresh := (ofText (src.drop offset)).ask request
        origin.offset = offset ∧
        ask ⟨.past src offset, []⟩ request = (fresh.1.shift origin, fresh.2.shift origin) ∧
        ∀ reply after, Descent.Asks ⟨.past src offset, 0⟩ request reply after ↔
          ∃ reply' after', Descent.Asks ⟨.ofText (src.drop offset), 0⟩ request reply' after' ∧
            reply = reply'.shift origin ∧ after = after'.shift origin := by
  have start : (ofText src).cursor.StandsIn src := ⟨0, .zero src, (Cursor.past_zero src).symm⟩
  obtain ⟨⟨offset, boundary, stands⟩, closed⟩ := standsIn_session start rfl requests
  have now : ((ofText src).session requests).2 = ⟨.past src offset, []⟩ := by
    rw [← stands, ← closed]
  refine ⟨offset, boundary, boundary.start, now, ?_, ?_⟩
  · intro replies after
    rw [Descent.session_iff]
    change _ ∧ (ofText src).session requests = _ ↔ _
    constructor
    · rintro ⟨depth, ended⟩
      obtain ⟨last, rfl⟩ := Descent.exists_cursor depth
      rw [ended] at now ⊢
      obtain rfl : last = .past src offset := congrArg Reader.cursor now
      exact ⟨rfl, rfl⟩
    · rintro ⟨rfl, rfl⟩
      exact ⟨rfl, Prod.ext rfl now⟩
  · intro request origin fresh
    have row : 1 ≤ (ofText (src.drop offset)).cursor.position.row := Nat.le_refl 1
    refine ⟨Cursor.past_position_offset boundary.within, ?_, ?_⟩
    · rw [Cursor.past_eq_shift]
      exact ask_shift row request
    · intro reply after
      rw [Cursor.past_eq_shift]
      exact Descent.asks_shift_iff row

end SexprCall
