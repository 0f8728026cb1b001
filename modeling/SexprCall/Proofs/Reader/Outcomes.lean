import SexprCall.Proofs.Reader.Feed

/-! The outcomes of call after call on a reader, past all errors and up to the end of the source. They
do not depend on whether the calls are made one by one or as reading of all that is left. -/
namespace SexprCall.Reader

/-- A call that gives something leaves fewer characters, or closes the forms that were open. -/
theorem pull_lt {reader : Reader} (more : reader.pull.outcome ≠ .ok none) :
    reader.pull.reader.cursor.rest.length + reader.pull.reader.depth <
      reader.cursor.rest.length + reader.depth := by
  rw [depth_pull]
  by_cases used : reader.cursor.rest = []
  · rw [pull_of_rest_nil used] at more ⊢
    cases opened : reader.opened with
    | nil => exact absurd (by rw [opened]; rfl) more
    | cons form outer => simp [depth, opened]
  · have shorter := pull_rest_lt used
    omega

/-- What the reader gives from here on, a node or an error at each call. -/
def outcomes (reader : Reader) : List (Except ReadError Node) :=
  match _ : reader.pull.outcome with
  | .ok none => []
  | .ok (some node) => .ok node :: outcomes reader.pull.reader
  | .error error => .error error :: outcomes reader.pull.reader
termination_by reader.cursor.rest.length + reader.depth
decreasing_by all_goals exact pull_lt (by simp_all)

theorem outcomes_of_end {reader : Reader} (ended : reader.pull.outcome = .ok none) :
    reader.outcomes = [] := by
  rw [outcomes]
  split <;> simp_all

theorem outcomes_of_node {reader : Reader} {node : Node}
    (complete : reader.pull.outcome = .ok (some node)) :
    reader.outcomes = .ok node :: reader.pull.reader.outcomes := by
  rw [outcomes]
  split <;> simp_all

theorem outcomes_of_error {reader : Reader} {error : ReadError}
    (failed : reader.pull.outcome = .error error) :
    reader.outcomes = .error error :: reader.pull.reader.outcomes := by
  rw [outcomes]
  split <;> simp_all

/-- The end of the source comes where it is used up. -/
theorem rest_of_pull_end {reader : Reader} (ended : reader.pull.outcome = .ok none) :
    reader.pull.reader.cursor.rest = [] := by
  fun_induction pull reader with
  | case1 reader used => exact Cursor.next?_eq_none.1 used
  | case2 | case3 => simp at ended
  | case4 reader token after found opened taken later ih => exact ih ended

/-- After the last node there is nothing more. -/
theorem outcomes_after_end {reader : Reader} (ended : reader.pull.outcome = .ok none) :
    reader.pull.reader.outcomes = [] := by
  have closed : reader.pull.reader.opened = [] := List.length_eq_zero_iff.1 (depth_pull reader)
  apply outcomes_of_end
  rw [pull_of_rest_nil (rest_of_pull_end ended), closed]
  rfl

/-- A call gives the first of the outcomes and leaves the others, or the end of input. -/
theorem next_outcomes (reader : Reader) :
    (reader.outcomes = [] ∧ reader.next.1 = .ok .endOfInput ∧ reader.next.2.outcomes = []) ∨
      reader.outcomes = reader.next.1 :: reader.next.2.outcomes := by
  unfold next
  rcases outcome : reader.pull.outcome with error | (_ | node)
  · exact .inr (outcomes_of_error outcome)
  · exact .inl ⟨outcomes_of_end outcome, rfl, outcomes_after_end outcome⟩
  · exact .inr (outcomes_of_node outcome)

theorem nodes_of_pull_node {reader : Reader} {node : Node}
    (complete : reader.pull.outcome = .ok (some node)) :
    reader.readAll.nodes = node :: reader.pull.reader.readAll.nodes := by
  rw [readAll_of_node complete, Reading.nodes, List.filterMap_append, filterMap_node?_token]
  rfl

/-- Reading all that is left stops at the first error, or after the last node. -/
theorem outcomes_eq_readAll (reader : Reader) :
    (reader.readAll.error? = none ∧ reader.outcomes = reader.readAll.nodes.map .ok ∧
      reader.readAll.reader.outcomes = []) ∨
    ∃ error, reader.readAll.error? = some error ∧
      reader.outcomes =
        reader.readAll.nodes.map .ok ++ .error error :: reader.readAll.reader.outcomes := by
  rcases outcome : reader.pull.outcome with error | (_ | node)
  · refine .inr ⟨error, ?_⟩
    rw [readAll_of_error outcome, outcomes_of_error outcome, Reading.nodes, filterMap_node?_token]
    exact ⟨rfl, rfl⟩
  · refine .inl ?_
    rw [readAll_of_end outcome, outcomes_of_end outcome, Reading.nodes, filterMap_node?_token]
    exact ⟨rfl, rfl, outcomes_after_end outcome⟩
  · have shorter := pull_node_rest_lt outcome
    rw [nodes_of_pull_node outcome, outcomes_of_node outcome, readAll_of_node outcome]
    rcases outcomes_eq_readAll reader.pull.reader with ⟨none, all, used⟩ | ⟨error, some, all⟩
    · exact .inl ⟨none, by rw [all, List.map_cons], used⟩
    · exact .inr ⟨error, some, by rw [all, List.map_cons, List.cons_append]⟩
termination_by reader.cursor.rest.length

/-- A source that is read has its nodes as outcomes. -/
theorem outcomes_of_parse {src : Text} {nodes : List Node} (read : parse src = .ok nodes) :
    (ofText src).outcomes = nodes.map .ok := by
  rw [parse, Reading.result] at read
  rcases outcomes_eq_readAll (ofText src) with ⟨none, all, -⟩ | ⟨error, some, -⟩
  · rw [none] at read
    obtain rfl := Except.ok.inj read
    exact all
  · rw [some] at read
    cases read

end SexprCall.Reader
