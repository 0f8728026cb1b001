import SexprCall.Proofs.Reader.Outcomes
import SexprCall.Proofs.Reader.Returned
import SexprCall.Proofs.Render.Success

/-! Sessions with a renderer: calls for a node and calls for the text of all that is left, in any order
and past any error. All calls share one reader, so each of them goes on in the list of the reader's
outcomes where the one before it has stopped. -/
namespace SexprCall

/-- All that a reader between two tokens reads can be rendered. -/
theorem Reader.exists_renderAll {src : Text} {reader : Reader} (stands : reader.cursor.StandsIn src)
    (closed : reader.opened = []) : ∃ texts, Node.renderAll src reader.readAll.nodes = .ok texts := by
  obtain ⟨offset, boundary, stands⟩ := stands
  have same : reader = ⟨.past src offset, []⟩ := by rw [← stands, ← closed]
  obtain ⟨_, _, _, _, derived, _⟩ := exists_derives_readAll boundary
  rw [same]
  exact Node.renderAll_ok fun node member => derived.render_ok node member []

namespace Renderer

def session (renderer : Renderer) : List Request → List Reply × Renderer
  | [] => ([], renderer)
  | request :: requests =>
    let (reply, later) := renderer.ask request
    let (replies, last) := later.session requests
    (reply :: replies, last)

inductive Run {State : Type} (answers : State → Request → Reply → State → Prop) :
    State → List Request → List Reply → State → Prop where
  | nil {state} : Run answers state [] [] state
  | cons {state request reply middle requests replies last} :
      answers state request reply middle → Run answers middle requests replies last →
      Run answers state (request :: requests) (reply :: replies) last

/-- One request to an index into a list of outcomes. A call for a node takes one outcome. A call for
text stops after the first error or at the end of the list, and joins the texts of the nodes. -/
inductive Answers (src : Text) (outcomes : List (Except ReadError Node)) :
    Nat → Request → Reply → Nat → Prop where
  | node {index outcome} : outcomes[index]? = some outcome →
      Answers src outcomes index .next (.node outcome) (index + 1)
  | ended {index} : outcomes[index]? = none →
      Answers src outcomes index .next (.node (.ok .endOfInput)) index
  | fails {index error rest} {nodes : List Node} :
      outcomes.drop index = nodes.map .ok ++ .error error :: rest →
      Answers src outcomes index .render (.text (.error (.reading error)))
        (index + nodes.length + 1)
  | renders {index} {nodes : List Node} {texts : List Text} : outcomes.drop index = nodes.map .ok →
      nodes.map (Node.render src · []) = texts.map .ok →
      Answers src outcomes index .render (.text (.ok texts.flatten)) outcomes.length

/-- Rendering node by node: each node is rendered before the next one is read. -/
inductive Joins (src : Text) : Reader → Except SourceError Text → Reader → Prop where
  | ended {reader} : reader.next.1 = .ok .endOfInput → Joins src reader (.ok []) reader.next.2
  | malformed {reader error} : reader.next.1 = .error error →
      Joins src reader (.error (.reading error)) reader.next.2
  | foreign {reader node error} : reader.next.1 = .ok node → node ≠ .endOfInput →
      node.render src [] = .error error → Joins src reader (.error (.rendering error)) reader.next.2
  | node {reader node text result after} : reader.next.1 = .ok node → node ≠ .endOfInput →
      node.render src [] = .ok text → Joins src reader.next.2 result after →
      Joins src reader (result.map (text ++ ·)) after

inductive Asks : Renderer → Request → Reply → Renderer → Prop where
  | next {renderer} : Asks renderer .next (.node renderer.reader.next.1)
      { renderer with reader := renderer.reader.next.2 }
  | render {renderer result after} : Joins renderer.src renderer.reader result after →
      Asks renderer .render (.text result) { renderer with reader := after }

/-- The renderer reads the source between two tokens, and the outcomes left are those from the index
on. -/
structure StandsAt (src : Text) (outcomes : List (Except ReadError Node)) (index : Nat)
    (renderer : Renderer) : Prop where
  same : renderer.src = src
  cursor : renderer.reader.cursor.StandsIn src
  closed : renderer.reader.opened = []
  left : renderer.reader.outcomes = outcomes.drop index

variable {src : Text} {outcomes : List (Except ReadError Node)} {index : Nat} {renderer : Renderer}

theorem standsAt_ofText (src : Text) :
    StandsAt src (Reader.ofText src).outcomes 0 (ofText src) :=
  ⟨rfl, ⟨0, .zero src, (Cursor.past_zero src).symm⟩, rfl, rfl⟩

theorem render_of_error {error : ReadError} (failed : renderer.reader.readAll.error? = some error) :
    renderer.render =
      (.error (.reading error), { renderer with reader := renderer.reader.readAll.reader }) := by
  simp only [render, Reading.result, failed]

theorem render_of_end {texts : List Text} (ended : renderer.reader.readAll.error? = none)
    (rendered : Node.renderAll renderer.src renderer.reader.readAll.nodes = .ok texts) :
    renderer.render =
      (.ok texts.flatten, { renderer with reader := renderer.reader.readAll.reader }) := by
  simp only [render, Reading.result, ended, renderNodes, rendered]

/-- One request takes the index on. -/
theorem StandsAt.ask (stands : StandsAt src outcomes index renderer) (request : Request) :
    ∃ later, Answers src outcomes index request (renderer.ask request).1 later ∧
      StandsAt src outcomes later (renderer.ask request).2 := by
  cases request with
  | next =>
    have cursor := Reader.standsIn_pull stands.cursor
    have closed := Reader.opened_pull renderer.reader
    rcases renderer.reader.next_outcomes with ⟨none, ended, used⟩ | all
    · have none : outcomes.drop index = [] := stands.left.symm.trans none
      refine ⟨index, ?_, stands.same, cursor, closed, used.trans none.symm⟩
      have reply : (renderer.ask .next).1 = .node (.ok .endOfInput) := congrArg _ ended
      rw [reply]
      apply Answers.ended
      rw [← List.head?_drop, none, List.head?_nil]
    · have all := stands.left.symm.trans all
      refine ⟨index + 1, ?_, stands.same, cursor, closed, ?_⟩
      · apply Answers.node
        rw [← List.head?_drop, all, List.head?_cons]
        rfl
      · rw [← List.tail_drop, all, List.tail_cons]
        rfl
  | render =>
    have cursor := Reader.standsIn_readAll stands.cursor
    have closed := Reader.opened_readAll renderer.reader
    rcases renderer.reader.outcomes_eq_readAll with ⟨none, all, used⟩ | ⟨error, failed, all⟩
    · obtain ⟨texts, rendered⟩ := Reader.exists_renderAll stands.cursor stands.closed
      have rendered' := rendered
      rw [← stands.same] at rendered'
      rw [Renderer.ask, render_of_end none rendered']
      refine ⟨outcomes.length, ?_, stands.same, cursor, closed, ?_⟩
      · exact .renders (stands.left.symm.trans all) (Node.map_render_of_renderAll rendered)
      · rw [used, List.drop_length]
    · have all := stands.left.symm.trans all
      rw [Renderer.ask, render_of_error failed]
      refine ⟨_, .fails all, stands.same, cursor, closed, ?_⟩
      rw [Nat.add_assoc, ← List.drop_drop, all, ← List.drop_drop, List.drop_left'
        (List.length_map _), List.drop_one, List.tail_cons]

theorem StandsAt.session (stands : StandsAt src outcomes index renderer) (requests : List Request) :
    ∃ last, Run (Answers src outcomes) index requests (renderer.session requests).1 last ∧
      StandsAt src outcomes last (renderer.session requests).2 := by
  induction requests generalizing index renderer with
  | nil => exact ⟨index, .nil, stands⟩
  | cons request requests ih =>
    obtain ⟨middle, answers, stands⟩ := stands.ask request
    obtain ⟨last, run, stands⟩ := ih stands
    exact ⟨last, .cons answers run, stands⟩

theorem Joins.unique {reader after after' : Reader} {result result' : Except SourceError Text}
    (joins : Joins src reader result after) (joins' : Joins src reader result' after') :
    result = result' ∧ after = after' := by
  induction joins generalizing result' with
  | ended ended | malformed failed | foreign given more failed =>
    cases joins' <;> simp_all
  | node given more rendered _ ih =>
    cases joins' with
    | node given' _ rendered' joins' =>
      obtain rfl := Except.ok.inj (given.symm.trans given')
      obtain rfl := Except.ok.inj (rendered.symm.trans rendered')
      obtain ⟨rfl, rfl⟩ := ih joins'
      exact ⟨rfl, rfl⟩
    | ended | malformed | foreign => simp_all

/-- A node that comes first has its text in front. -/
theorem render_of_pull_node {reader : Reader} {node : Node} {text : Text} {texts : List Text}
    (complete : reader.pull.outcome = .ok (some node)) (first : node.render src [] = .ok text)
    (rest : Node.renderAll src reader.pull.reader.readAll.nodes = .ok texts) :
    (render ⟨src, reader⟩).1 = (render ⟨src, reader.pull.reader⟩).1.map (text ++ ·) := by
  have goes := Reader.readAll_of_node complete
  cases stopped : reader.pull.reader.readAll.error? with
  | some error =>
    rw [@render_of_error ⟨src, reader⟩ error (by rw [goes, stopped]),
      @render_of_error ⟨src, reader.pull.reader⟩ error stopped]
    rfl
  | none =>
    have all : Node.renderAll src reader.readAll.nodes = .ok (text :: texts) := by
      rw [Reader.nodes_of_pull_node complete, Node.renderAll, first, rest]
      rfl
    rw [@render_of_end ⟨src, reader⟩ _ (by rw [goes, stopped]) all,
      @render_of_end ⟨src, reader.pull.reader⟩ _ stopped rest]
    rfl

/-- What can be rendered at all is joined node by node to what it renders to at once. -/
theorem joins_render {reader : Reader} {texts : List Text}
    (rendered : Node.renderAll src reader.readAll.nodes = .ok texts) :
    Joins src reader (render ⟨src, reader⟩).1 reader.readAll.reader := by
  rcases outcome : reader.pull.outcome with error | (_ | node)
  · have answered : reader.next.1 = .error error := by rw [Reader.next, outcome]; rfl
    have stopped := Reader.readAll_of_error outcome
    rw [@render_of_error ⟨src, reader⟩ error (by rw [stopped]), stopped]
    exact .malformed answered
  · have answered : reader.next.1 = .ok .endOfInput := by rw [Reader.next, outcome]; rfl
    have stopped := Reader.readAll_of_end outcome
    have nodes : reader.readAll.nodes = [] := by
      rw [stopped, Reading.nodes, filterMap_node?_token]
    rw [nodes] at rendered
    rw [@render_of_end ⟨src, reader⟩ _ (by rw [stopped]) (by rw [nodes]; exact rendered)]
    obtain rfl : [] = texts := Except.ok.inj rendered
    rw [stopped]
    exact .ended answered
  · have answered : reader.next.1 = .ok node := by rw [Reader.next, outcome]; rfl
    have shorter := Reader.pull_node_rest_lt outcome
    rw [Reader.nodes_of_pull_node outcome] at rendered
    obtain ⟨text, later, first, rest, rfl⟩ := Node.exists_of_renderAll_cons rendered
    have joins := joins_render rest
    rw [render_of_pull_node outcome first rest, Reader.readAll_of_node outcome]
    exact .node answered (Reader.pull_node_ne_endOfInput outcome) first joins
termination_by reader.cursor.rest.length

theorem StandsAt.asks_iff (stands : StandsAt src outcomes index renderer) {request : Request}
    {reply : Reply} {after : Renderer} :
    Asks renderer request reply after ↔ renderer.ask request = (reply, after) := by
  obtain ⟨texts, rendered⟩ := Reader.exists_renderAll stands.cursor stands.closed
  rw [← stands.same] at rendered
  have joins := joins_render rendered
  constructor
  · rintro (_ | joins')
    · rfl
    · obtain ⟨rfl, rfl⟩ := joins.unique joins'
      rfl
  · intro answered
    cases request with
    | next =>
      obtain ⟨rfl, rfl⟩ := Prod.mk.inj answered
      exact .next
    | render =>
      obtain ⟨rfl, rfl⟩ := Prod.mk.inj answered
      exact .render joins

/-- Rendering node by node makes no difference in a session. -/
theorem StandsAt.run_asks_iff (stands : StandsAt src outcomes index renderer)
    {requests : List Request} {replies : List Reply} {last : Renderer} :
    Run Asks renderer requests replies last ↔ renderer.session requests = (replies, last) := by
  induction requests generalizing index renderer replies with
  | nil =>
    constructor
    · rintro ⟨⟩
      rfl
    · intro ended
      obtain ⟨rfl, rfl⟩ := Prod.mk.inj ended
      exact .nil
  | cons request requests ih =>
    obtain ⟨later, -, next⟩ := stands.ask request
    constructor
    · rintro (_ | ⟨asks, run⟩)
      have answered := stands.asks_iff.1 asks
      rw [answered] at next
      rw [Renderer.session, answered]
      simp only [(ih next).1 run]
    · intro ended
      obtain ⟨rfl, rfl⟩ := Prod.mk.inj ended
      exact .cons (stands.asks_iff.2 rfl) ((ih next).2 rfl)

/-- No request meets a value that cannot be rendered. -/
theorem Run.not_foreign {requests : List Request} {replies : List Reply} {last : Nat}
    (run : Run (Answers src outcomes) index requests replies last) (error : RenderError) :
    .text (.error (.rendering error)) ∉ replies := by
  induction run with
  | nil => simp
  | cons answers _ ih =>
    rw [List.mem_cons, not_or]
    refine ⟨?_, ih⟩
    rintro rfl
    cases answers

/-- Nodes that were called for one by one, then the text of the others; the texts of the nodes and this
text make up the whole. -/
def Pieces (src : Text) (count : Nat) (replies : List Reply) (whole : Text) : Prop :=
  ∃ (nodes : List Node) (texts : List Text) (rest : Text), nodes.length = count ∧
    replies = nodes.map (fun node => .node (.ok node)) ++ [.text (.ok rest)] ∧
    nodes.map (Node.render src · []) = texts.map .ok ∧ texts.flatten ++ rest = whole

theorem Pieces.cons {count : Nat} {replies : List Reply} {node : Node} {text rest : Text}
    (pieces : Pieces src count replies rest) (rendered : node.render src [] = .ok text) :
    Pieces src (count + 1) (.node (.ok node) :: replies) (text ++ rest) := by
  obtain ⟨nodes, texts, last, rfl, rfl, same, rfl⟩ := pieces
  refine ⟨node :: nodes, text :: texts, last, rfl, rfl, ?_, ?_⟩
  · rw [List.map_cons, rendered, same, List.map_cons]
  · rw [List.flatten_cons, List.append_assoc]

theorem Run.pieces {nodes : List Node} {texts : List Text}
    (rendered : nodes.map (Node.render src · []) = texts.map .ok) {count last : Nat}
    {replies : List Reply} (run : Run (Answers src (nodes.map .ok)) index
      (List.replicate count .next ++ [.render]) replies last) :
    Pieces src count replies (texts.drop index).flatten := by
  induction count generalizing index replies with
  | zero =>
    obtain _ | ⟨answers, ⟨⟩⟩ := run
    cases answers with
    | @fails error _ _ left =>
      have member : Except.error error ∈ (nodes.map Except.ok).drop index := by simp [left]
      simpa using List.mem_of_mem_drop member
    | renders left same =>
      -- The texts that are joined are those of the nodes from the index on.
      rw [← List.map_drop, List.map_inj_right fun _ _ => Except.ok.inj] at left
      have later := congrArg (List.drop index) rendered
      rw [← List.map_drop, ← List.map_drop, left, same,
        List.map_inj_right fun _ _ => Except.ok.inj] at later
      exact ⟨[], [], _, rfl, by rw [later]; rfl, rfl, rfl⟩
  | succ count ih =>
    obtain _ | ⟨answers, run⟩ := run
    cases answers with
    | node found =>
      rw [List.getElem?_map] at found
      obtain ⟨node, within, rfl⟩ := Option.map_eq_some_iff.1 found
      have here := congrArg (·[index]?) rendered
      simp only [List.getElem?_map, within, Option.map_some] at here
      obtain ⟨text, at', rendered'⟩ := Option.map_eq_some_iff.1 here.symm
      obtain ⟨inside, rfl⟩ := List.getElem?_eq_some_iff.1 at'
      rw [List.drop_eq_getElem_cons inside, List.flatten_cons]
      exact (ih run).cons rendered'.symm
    | ended => exact @Pieces.cons src count _ .endOfInput [] _ (ih run) rfl

/-- In every session with a renderer there is an index into the outcomes of a new reader over the
source, zero at first, that each request takes on, and rendering node by node gives the same replies.
No text fails for a foreign value, a source renders unless reading it fails, and with the same error.
Nodes that were called for one by one and the text of the others have the text of the source together. -/
theorem session_outcomes (src : Text) (requests : List Request) :
    let outcomes := (Reader.ofText src).outcomes
    let replies := ((ofText src).session requests).1
    (∃ last, Run (Answers src outcomes) 0 requests replies last) ∧
    (∀ others last, Run Asks (ofText src) requests others last ↔
      (ofText src).session requests = (others, last)) ∧
    (∀ error, .text (.error (.rendering error)) ∉ replies) ∧
    (∀ error, SexprCall.render src = .error error ↔
      ∃ cause, parse src = .error cause ∧ error = .reading cause) ∧
    ∀ nodes count, parse src = .ok nodes → ∃ text, SexprCall.render src = .ok text ∧
      Pieces src count ((ofText src).session (List.replicate count .next ++ [.render])).1 text := by
  intro outcomes replies
  have stands := standsAt_ofText src
  obtain ⟨last, run, -⟩ := stands.session requests
  refine ⟨⟨last, run⟩, fun others last => stands.run_asks_iff, run.not_foreign, ?_, ?_⟩
  · intro error
    cases read : parse src with
    | error cause =>
      rw [render_of_parse_error read]
      simp [eq_comm]
    | ok nodes =>
      obtain ⟨texts, -, rendered⟩ := render_of_parse read
      simp [rendered]
  · intro nodes count read
    obtain ⟨texts, rendered, whole⟩ := render_of_parse read
    obtain ⟨last, run, -⟩ := stands.session (List.replicate count .next ++ [.render])
    rw [Reader.outcomes_of_parse read] at run
    exact ⟨_, whole, run.pieces (Node.map_render_of_renderAll rendered)⟩

end Renderer
end SexprCall
