import SexprCall.Reader.Session
import SexprCall.Proofs.Position.Shift
import SexprCall.Proofs.Reader.Feed

/-! Readers over a moved source. No token is taken for its place, so a reader answers each request as
before, with its tokens and nodes moved. -/
namespace SexprCall

namespace Node

mutual

def shift (origin : Position) : Node → Node
  | form head tail span => form (head.shift origin) (shiftAll origin tail) (span.shift origin)
  | atom kind token span => atom kind (token.shift origin) (span.shift origin)
  | emptyList span => emptyList (span.shift origin)
  | endOfInput => endOfInput
  | foreign value => foreign value

def shiftAll (origin : Position) : List Node → List Node
  | [] => []
  | node :: nodes => node.shift origin :: shiftAll origin nodes

end

theorem shiftAll_eq_map (origin : Position) (nodes : List Node) :
    shiftAll origin nodes = nodes.map (shift origin) := by
  induction nodes with
  | nil => rfl
  | cons node nodes ih => rw [shiftAll, ih, List.map_cons]

theorem shift_ofToken (origin : Position) (token : Token) :
    (ofToken token).shift origin = ofToken (token.shift origin) := by
  simp [ofToken, shift]

theorem shift_ofCells (origin : Position) (cells : List Node) (span : Span) :
    (ofCells cells span).shift origin = ofCells (cells.map (shift origin)) (span.shift origin) := by
  cases cells with
  | nil => simp [ofCells, shift]
  | cons head tail => simp [ofCells, shift, shiftAll_eq_map]

mutual

/-- Nodes that are moved to the same place are the same. -/
theorem shift_inj {origin : Position} : ∀ {node other : Node},
    node.shift origin = other.shift origin → node = other
  | form head tail span, other, same => by
    cases other with
    | form head' tail' span' =>
      simp only [shift, form.injEq] at same
      obtain ⟨heads, tails, spans⟩ := same
      rw [shift_inj heads, shiftAll_inj tails, Span.shift_inj spans]
    | atom | emptyList | endOfInput | foreign => cases same
  | atom kind token span, other, same => by
    cases other with
    | atom kind' token' span' =>
      simp only [shift, atom.injEq] at same
      obtain ⟨rfl, tokens, spans⟩ := same
      rw [Token.shift_inj tokens, Span.shift_inj spans]
    | form | emptyList | endOfInput | foreign => cases same
  | emptyList span, other, same => by
    cases other with
    | emptyList span' =>
      simp only [shift, emptyList.injEq] at same
      rw [Span.shift_inj same]
    | form | atom | endOfInput | foreign => cases same
  | endOfInput, other, same => by
    cases other with
    | endOfInput => rfl
    | form | atom | emptyList | foreign => cases same
  | foreign value, other, same => by
    cases other with
    | foreign value' =>
      simp only [shift, foreign.injEq] at same
      rw [same]
    | form | atom | emptyList | endOfInput => cases same

theorem shiftAll_inj {origin : Position} : ∀ {nodes others : List Node},
    shiftAll origin nodes = shiftAll origin others → nodes = others
  | [], [], _ => rfl
  | node :: nodes, other :: others, same => by
    simp only [shiftAll, List.cons.injEq] at same
    obtain ⟨first, rest⟩ := same
    rw [shift_inj first, shiftAll_inj rest]

end

end Node

def OpenForm.shift (origin : Position) (form : OpenForm) : OpenForm :=
  ⟨form.paren.shift origin, form.cells.map (Node.shift origin)⟩

theorem OpenForm.shift_add (origin : Position) (form : OpenForm) (cell : Node) :
    (form.add cell).shift origin = (form.shift origin).add (cell.shift origin) := by
  simp [shift, add]

theorem OpenForm.shift_close (origin : Position) (form : OpenForm) (paren : Token) :
    (form.close paren).shift origin = (form.shift origin).close (paren.shift origin) := by
  simp [close, shift, Node.shift_ofCells]

def ReadError.shift (origin : Position) : ReadError → ReadError
  | unexpected expected token => unexpected expected (token.shift origin)
  | unsupported token => unsupported (token.shift origin)
  | tooDeep token => tooDeep (token.shift origin)

def ReadError.shiftOutcome {α : Type} (origin : Position) (shift : α → α) :
    Except ReadError α → Except ReadError α
  | .error error => .error (error.shift origin)
  | .ok value => .ok (shift value)

def Progress.shift (origin : Position) : Progress → Progress
  | going opened => going (opened.map (OpenForm.shift origin))
  | complete node => complete (node.shift origin)

open ReadError

/-- A token is taken for its kind alone. -/
theorem Progress.take_shift (origin : Position) (opened : List OpenForm) (token : Token) :
    take (opened.map (OpenForm.shift origin)) (token.shift origin) =
      shiftOutcome origin (Progress.shift origin) (take opened token) := by
  have taken := Progress.taken opened token
  generalize take opened token = result at taken
  apply take_of_taken
  cases taken with
  | trivia trivia => exact .trivia trivia
  | unsupported means other => exact .unsupported means other
  | unexpected means refused => exact .unexpected means refused
  | opens opens room => exact .opens opens (by simpa using room)
  | tooDeep opens full => exact .tooDeep opens (by simpa using full)
  | completes closes =>
    simp only [shiftOutcome, Progress.shift, OpenForm.shift_close]
    exact .completes closes
  | closes closes =>
    simp only [shiftOutcome, Progress.shift, List.map_cons, OpenForm.shift_add,
      OpenForm.shift_close]
    exact .closes closes
  | adds atom =>
    simp only [shiftOutcome, Progress.shift, List.map_cons, OpenForm.shift_add,
      Node.shift_ofToken]
    exact .adds atom

theorem Progress.finish_shift (origin : Position) (opened : List OpenForm) (atEnd : Token) :
    finish (opened.map (OpenForm.shift origin)) (atEnd.shift origin) =
      shiftOutcome origin (Option.map (Node.shift origin)) (finish opened atEnd) := by
  cases opened <;> rfl

def Feed.shift (origin : Position) (fed : Feed) : Feed :=
  ⟨fed.nodes.map (Node.shift origin),
    shiftOutcome origin (List.map (OpenForm.shift origin)) fed.outcome,
    fed.rest.map (Token.shift origin)⟩

theorem feed_shift (origin : Position) (opened : List OpenForm) (tokens : List Token) :
    feed (opened.map (OpenForm.shift origin)) (tokens.map (Token.shift origin)) =
      (feed opened tokens).shift origin := by
  induction tokens generalizing opened with
  | nil => rfl
  | cons token tokens ih =>
    have moved := Progress.take_shift origin opened token
    rw [List.map_cons]
    cases taken : Progress.take opened token with
    | error error =>
      rw [taken] at moved
      rw [feed_of_error moved, feed_of_error taken]
      rfl
    | ok progress =>
      rw [taken] at moved
      cases progress with
      | going later => rw [feed_of_going moved, feed_of_going taken, ih]
      | complete node =>
        rw [feed_of_complete moved, feed_of_complete taken, ← List.map_nil, ih]
        rfl

theorem significant_map_shift (origin : Position) (tokens : List Token) :
    significant (tokens.map (Token.shift origin)) =
      (significant tokens).map (Token.shift origin) := by
  rw [significant, significant, List.filter_map]
  rfl

def Event.shift (origin : Position) : Event → Event
  | token used => token (used.shift origin)
  | node complete => node (complete.shift origin)

def Reader.shift (origin : Position) (reader : Reader) : Reader :=
  ⟨reader.cursor.shift origin, reader.opened.map (OpenForm.shift origin)⟩

def Pull.shift (origin : Position) (pull : Pull) : Pull :=
  ⟨pull.tokens.map (Token.shift origin),
    shiftOutcome origin (Option.map (Node.shift origin)) pull.outcome, pull.reader.shift origin⟩

def Reading.shift (origin : Position) (reading : Reading) : Reading :=
  ⟨reading.events.map (Event.shift origin), reading.error?.map (ReadError.shift origin),
    reading.reader.shift origin⟩

theorem Reading.shift_nodes (origin : Position) (reading : Reading) :
    (reading.shift origin).nodes = reading.nodes.map (Node.shift origin) := by
  rw [nodes, nodes, List.map_filterMap, shift, List.filterMap_map]
  congr 1
  funext event
  cases event <;> rfl

def Reader.Reply.shift (origin : Position) : Reader.Reply → Reader.Reply
  | node outcome => node (shiftOutcome origin (Node.shift origin) outcome)
  | nodes complete error? =>
    nodes (complete.map (Node.shift origin)) (error?.map (ReadError.shift origin))
  | token used => token (used.shift origin)

namespace Reader

variable {origin : Position}

theorem pull_shift {reader : Reader} (row : 1 ≤ reader.cursor.position.row) :
    (reader.shift origin).pull = reader.pull.shift origin := by
  obtain ⟨cursor, opened⟩ := reader
  induction cursor using Cursor.induction_next generalizing opened with
  | used cursor used =>
    have rest : cursor.rest = [] := Cursor.next?_eq_none.1 used
    rw [pull_of_rest_nil rest, pull_of_rest_nil (by exact rest)]
    simp only [Pull.shift, ← Progress.finish_shift, Token.shift_atEnd]
    rfl
  | more cursor token after found ih =>
    have moved : (shift origin ⟨cursor, opened⟩).cursor.next? =
        some (token.shift origin, after.shift origin) := by
      rw [shift, Cursor.shift_next? origin row, found]
      rfl
    have row := Cursor.row_of_next? found row
    rw [pull_of_next? moved, pull_of_next? found, shift, Progress.take_shift]
    cases Progress.take opened token with
    | error error => rfl
    | ok progress =>
      cases progress with
      | complete node => rfl
      | going later =>
        have rest : pull ⟨after.shift origin, later.map (OpenForm.shift origin)⟩ = _ := ih later row
        simp only [shiftOutcome, Progress.shift, rest]
        rfl

theorem row_pull {reader : Reader} (row : 1 ≤ reader.cursor.position.row) :
    1 ≤ reader.pull.reader.cursor.position.row := by
  fun_induction pull reader with
  | case1 => exact row
  | case2 reader token after found | case3 reader token after found =>
    exact Cursor.row_of_next? found row
  | case4 reader token after found opened taken later ih =>
    exact ih (Cursor.row_of_next? found row)

theorem next_shift {reader : Reader} (row : 1 ≤ reader.cursor.position.row) :
    (reader.shift origin).next =
      (shiftOutcome origin (Node.shift origin) reader.next.1, reader.next.2.shift origin) := by
  rw [next, pull_shift row, next]
  rcases outcome : reader.pull.outcome with error | (_ | node) <;>
    simp [Pull.shift, outcome, shiftOutcome, Except.map, Node.shift]

theorem readAll_shift {reader : Reader} (row : 1 ≤ reader.cursor.position.row) :
    (reader.shift origin).readAll = reader.readAll.shift origin := by
  have tokenEvents (tokens : List Token) : (tokens.map (Token.shift origin)).map Event.token =
      (tokens.map Event.token).map (Event.shift origin) := by
    simp [Event.shift]
  fun_induction readAll reader with
  | case1 reader tokens error after pulled =>
    have moved := @pull_shift origin reader row
    rw [pulled] at moved
    rw [readAll_of_error (by rw [moved]; rfl), moved, Reading.shift, ← tokenEvents]
    rfl
  | case2 reader tokens after pulled =>
    have moved := @pull_shift origin reader row
    rw [pulled] at moved
    rw [readAll_of_end (by rw [moved]; rfl), moved, Reading.shift, ← tokenEvents]
    rfl
  | case3 reader tokens node after pulled later ih =>
    have moved := @pull_shift origin reader row
    have laterRow := row_pull row
    rw [pulled] at moved laterRow
    rw [readAll_of_node (by rw [moved]; rfl), moved]
    simp only [Pull.shift, ih laterRow, Reading.shift, List.map_append, List.map_cons, ← tokenEvents]
    rfl

/-- Each request is answered as before, only moved. -/
theorem ask_shift {reader : Reader} (row : 1 ≤ reader.cursor.position.row) (request : Request) :
    (reader.shift origin).ask request =
      ((reader.ask request).1.shift origin, (reader.ask request).2.shift origin) := by
  cases request with
  | next =>
    rw [ask, next_shift row]
    rfl
  | rest =>
    rw [ask, readAll_shift row, Reading.shift_nodes]
    rfl
  | token =>
    simp only [ask, shift, Cursor.shift_next origin row, Reply.shift]

end Reader
end SexprCall
