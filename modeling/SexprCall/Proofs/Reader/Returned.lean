import SexprCall.Proofs.Grammar.Parsing
import SexprCall.Proofs.Reader.Memory

/-! The nodes a reader returns, whichever calls are made and whichever errors come before. Each of them
is derived by tokens that stand in a row in the source. -/
namespace SexprCall

open Grammar Cursor

namespace Reader

def Reply.given : Reply → List Node
  | .node (.ok complete) => [complete]
  | .nodes complete _ => complete
  | .node (.error _) | .token _ => []

def Gives (src : Text) (node : Node) : Prop :=
  ∃ requests, ∃ reply ∈ ((ofText src).session requests).1, node ∈ reply.given

/-- Each reply is that of a reader between two tokens, with no form open. -/
theorem exists_ask_of_mem_session {src : Text} {reader : Reader}
    (stands : reader.cursor.StandsIn src) (closed : reader.opened = []) {requests : List Request}
    {reply : Reply} (member : reply ∈ (reader.session requests).1) :
    ∃ offset request, Boundary src offset ∧ (ask ⟨.past src offset, []⟩ request).1 = reply := by
  induction requests generalizing reader with
  | nil => cases member
  | cons request requests ih =>
    rw [session_cons] at member
    rcases List.mem_cons.1 member with rfl | later
    · obtain ⟨offset, boundary, stands⟩ := stands
      refine ⟨offset, request, boundary, ?_⟩
      rw [← stands, ← closed]
    · exact ih (standsIn_ask stands request) (opened_ask closed request) later

/-- A node that one call returns is among those that are read from there on. -/
theorem mem_nodes_of_given {reader : Reader} {request : Request} {node : Node}
    (given : node ∈ (reader.ask request).1.given) (more : node ≠ .endOfInput) :
    node ∈ reader.readAll.nodes := by
  cases request with
  | next =>
    rw [ask] at given
    cases answered : reader.next.1 with
    | error error => simp [answered, Reply.given] at given
    | ok other =>
      obtain rfl : node = other := by simpa [answered, Reply.given] using given
      rw [readAll_of_node (outcome_of_next_node answered more)]
      apply List.mem_filterMap.2
      exact ⟨.node node, List.mem_append_right _ List.mem_cons_self, rfl⟩
  | rest => exact given
  | token => cases given

/-- Reading from a boundary of the source, the nodes are derived by the tokens they are made of. -/
theorem exists_derives_readAll {src : Text} {offset : Nat} (boundary : Boundary src offset) :
    let nodes := (readAll ⟨.past src offset, []⟩).nodes
    ∃ before used after, tokenize src = before ++ (used ++ after) ∧
      Derives nodes (significant used) ∧
      ∀ node ∈ nodes, node.isParenthesized = true ∧ node.depth ≤ maxDepth := by
  intro nodes
  obtain ⟨before, whole⟩ := boundary.suffix
  obtain ⟨used, after, split, complete, closed⟩ := exists_feed_complete (past src offset).tokens
  obtain ⟨sameNodes, sameOutcome⟩ := feed_significant [] used
  have same : (feed [] (significant used)).nodes = nodes := by
    rw [sameNodes, complete, ← (readAll_past offset boundary.within []).1]
  have means : ∀ token ∈ significant used, token.kind.isTrivia = false := by simp [significant]
  have derived := Begun.nil.derives_feed means (sameOutcome.trans closed)
  rw [same] at derived
  exact ⟨before, used, after, by rw [← whole, split], derived⟩

theorem Gives.exists_derives {src : Text} {node : Node} (gives : Gives src node)
    (more : node ≠ .endOfInput) :
    ∃ before used after nodes, tokenize src = before ++ (used ++ after) ∧
      Derives nodes (significant used) ∧ node ∈ nodes ∧ node.depth ≤ maxDepth := by
  obtain ⟨requests, reply, member, given⟩ := gives
  have start : (ofText src).cursor.StandsIn src := ⟨0, .zero src, (Cursor.past_zero src).symm⟩
  obtain ⟨offset, request, boundary, rfl⟩ := exists_ask_of_mem_session start rfl member
  obtain ⟨before, used, after, split, derived, shape⟩ := exists_derives_readAll boundary
  have read := mem_nodes_of_given given more
  exact ⟨before, used, after, _, split, derived, read, (shape node read).2⟩

end Reader
end SexprCall
