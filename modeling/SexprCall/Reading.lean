import SexprCall.Reader

/-! Readings: what calls on a reader give from here to the end of the source or to the first error,
and what happens meanwhile. -/
namespace SexprCall

inductive Event where
  | token (token : Token)
  | node (node : Node)

namespace Event

def token? : Event → Option Token
  | .token used => some used
  | .node _ => none

def node? : Event → Option Node
  | .token _ => none
  | .node complete => some complete

end Event

structure Reading where
  events : List Event
  error? : Option ReadError
  reader : Reader

namespace Reading

def nodes (reading : Reading) : List Node := reading.events.filterMap Event.node?

def tokens (reading : Reading) : List Token := reading.events.filterMap Event.token?

def result (reading : Reading) : Except ReadError (List Node) :=
  match reading.error? with
  | some error => .error error
  | none => .ok reading.nodes

end Reading

def Reader.readAll (reader : Reader) : Reading :=
  match _ : reader.pull with
  | ⟨tokens, .error error, after⟩ => ⟨tokens.map .token, some error, after⟩
  | ⟨tokens, .ok none, after⟩ => ⟨tokens.map .token, none, after⟩
  | ⟨tokens, .ok (some node), after⟩ =>
    let later := readAll after
    { later with events := tokens.map .token ++ .node node :: later.events }
termination_by reader.cursor.rest.length
decreasing_by
  rename_i pulled
  have complete : reader.pull.outcome = .ok (some node) := by rw [pulled]
  have shorter := pull_node_rest_lt complete
  rwa [pulled] at shorter

namespace Reader

theorem readAll_of_error {reader : Reader} {error : ReadError}
    (failed : reader.pull.outcome = .error error) :
    reader.readAll = ⟨reader.pull.tokens.map .token, some error, reader.pull.reader⟩ := by
  rw [readAll]
  split <;> simp_all

theorem readAll_of_end {reader : Reader} (ended : reader.pull.outcome = .ok none) :
    reader.readAll = ⟨reader.pull.tokens.map .token, none, reader.pull.reader⟩ := by
  rw [readAll]
  split <;> simp_all

theorem readAll_of_node {reader : Reader} {node : Node}
    (complete : reader.pull.outcome = .ok (some node)) :
    reader.readAll =
      { reader.pull.reader.readAll with
        events := reader.pull.tokens.map .token ++ .node node ::
          reader.pull.reader.readAll.events } := by
  rw [readAll]
  split <;> simp_all

end Reader

def parse (src : Text) : Except ReadError (List Node) := (Reader.ofText src).readAll.result

end SexprCall
