import Mathlib.Data.List.Forall2
import SexprCall.Proofs.Render.Liveness

/-! What the text of a tree depends on: the nodes that rendering comes to, and of each no more than it
reads there. Other nodes can be replaced. -/
namespace SexprCall.Node

/-- What rendering reads of a head besides the cells it comes to from there. -/
inductive HeadView where
  | form
  | symbol (text : Text)
  | literal (text : Text)
  | emptyList
  | unknown

inductive View where
  | form (head : HeadView)
  | atom (text : Text)
  | emptyList
  | endOfInput
  | foreign (value : Foreign)

namespace HeadView

def isForm : HeadView → Bool
  | form => true
  | symbol _ | literal _ | emptyList | unknown => false

def isCallee : HeadView → Bool
  | form | symbol _ => true
  | literal _ | emptyList | unknown => false

/-- What the form opens with, called with this where it is called. -/
def opening (called : Except RenderError Text) : HeadView → Except RenderError Text
  | symbol text => do
    let called ← called
    return '\n' :: text ++ '(' :: called ++ [')']
  | literal text => .ok ('\n' :: text)
  | emptyList => .ok ['(', ')']
  | form | unknown => .ok []

theorem opening_congr {head : HeadView} {called called' : Except RenderError Text}
    (same : head.isCallee = true → called' = called) : head.opening called' = head.opening called := by
  cases head with
  | symbol text => rw [same rfl]
  | form | literal | emptyList | unknown => rfl

end HeadView

def headView (src : Text) : Node → HeadView
  | form .. => .form
  | atom .symbol token _ => .symbol (token.text src)
  | atom .literal token _ => .literal (token.text src)
  | emptyList _ => .emptyList
  | endOfInput | foreign _ => .unknown

def view (src : Text) : Node → View
  | form head _ _ => .form (head.headView src)
  | atom _ token _ => .atom (token.text src)
  | emptyList _ => .emptyList
  | endOfInput => .endOfInput
  | foreign value => .foreign value

theorem isForm_headView (src : Text) (head : Node) : (head.headView src).isForm = head.isForm := by
  rcases head with _ | ⟨⟨⟩⟩ | _ | _ | _ <;> rfl

theorem isCallee_headView (src : Text) (head : Node) :
    (head.headView src).isCallee = head.isCallee := by
  rcases head with _ | ⟨⟨⟩⟩ | _ | _ | _ <;> rfl

section Heads

variable {src other : Text} {head head' : Node}

theorem isForm_eq_of_headView (same : head'.headView other = head.headView src) :
    head'.isForm = head.isForm := by
  rw [← isForm_headView other, same, isForm_headView]

theorem isCallee_eq_of_headView (same : head'.headView other = head.headView src) :
    head'.isCallee = head.isCallee := by
  rw [← isCallee_headView other, same, isCallee_headView]

end Heads

theorem openingText_eq (src : Text) (head : Node) (tail : List Node) :
    openingText src head tail = (head.headView src).opening (argumentText src tail) := by
  rcases head with _ | ⟨⟨⟩⟩ | _ | _ | _ <;> rfl

theorem argumentText_eq_of_renderAll {src other : Text} {tail tail' : List Node}
    (same : renderAll other tail' = renderAll src tail) :
    argumentText other tail' = argumentText src tail := by
  rw [argumentText, argumentText, ← renderAll_eq_mapM, ← renderAll_eq_mapM, same]

/-- The same nodes are live in both trees, each over its source, and rendering reads the same of them. -/
def AlikeWhereLive (other src : Text) (alike node : Node) : Prop :=
  ∀ path, (alike.liveAt? path).map (view other) = (node.liveAt? path).map (view src)

theorem AlikeWhereLive.refl (src : Text) (node : Node) : AlikeWhereLive src src node node :=
  fun _ => rfl

section Alike

variable {src other : Text}

theorem forall₂_alikeWhereLive_iff {cells' cells : List Node} :
    List.Forall₂ (AlikeWhereLive other src) cells' cells ↔
      ∀ (index : Nat) (path : List Step),
        (cells'[index]?.bind fun cell => cell.liveAt? path).map (view other) =
          (cells[index]?.bind fun cell => cell.liveAt? path).map (view src) := by
  constructor
  · intro alike
    induction alike with
    | nil => simp
    | cons first _ ih =>
      intro index path
      cases index with
      | zero => exact first path
      | succ index => exact ih index path
  · intro same
    induction cells' generalizing cells with
    | nil =>
      cases cells with
      | nil => exact .nil
      | cons => simpa using same 0 []
    | cons cell' cells' ih =>
      cases cells with
      | nil => simpa using same 0 []
      | cons cell cells => exact .cons (same 0) (ih fun index => same (index + 1))

/-- A tree like a form is a form with a head like that of the form where this one is rendered, and with
such a tail where that one is. -/
theorem alikeWhereLive_form_iff {alike head : Node} {tail : List Node} {span : Span} :
    AlikeWhereLive other src alike (form head tail span) ↔
      ∃ head' tail' span', alike = form head' tail' span' ∧
        head'.headView other = head.headView src ∧
        (head.isForm = true → AlikeWhereLive other src head' head) ∧
        (head.isCallee = true → List.Forall₂ (AlikeWhereLive other src) tail' tail) := by
  constructor
  · intro same
    have root := same []
    cases alike with
    | atom | emptyList | endOfInput | foreign => cases root
    | form head' tail' span' =>
      have heads : head'.headView other = head.headView src := by simpa [view] using root
      have isForm := isForm_eq_of_headView heads
      have isCallee := isCallee_eq_of_headView heads
      refine ⟨head', tail', span', rfl, heads, fun callee path => ?_, fun callee => ?_⟩
      · have inside := same (.head :: path)
        rwa [liveAt?_head callee, liveAt?_head (isForm.trans callee)] at inside
      · refine forall₂_alikeWhereLive_iff.2 fun index path => ?_
        have inside := same (.tail index :: path)
        rwa [liveAt?_tail callee, liveAt?_tail (isCallee.trans callee)] at inside
  · rintro ⟨head', tail', span', rfl, heads, headAlike, tailAlike⟩ path
    have isForm := isForm_eq_of_headView heads
    have isCallee := isCallee_eq_of_headView heads
    cases path with
    | nil => simp [view, heads]
    | cons step path =>
      cases step with
      | head =>
        cases callee : head.isForm with
        | true =>
          rw [liveAt?_head callee, liveAt?_head (isForm.trans callee)]
          exact headAlike callee path
        | false =>
          rw [liveAt?_head_eq_none callee, liveAt?_head_eq_none (isForm.trans callee)]
          rfl
      | tail index =>
        cases callee : head.isCallee with
        | true =>
          rw [liveAt?_tail callee, liveAt?_tail (isCallee.trans callee)]
          exact forall₂_alikeWhereLive_iff.1 (tailAlike callee) index path
        | false =>
          rw [liveAt?_tail_eq_none callee, liveAt?_tail_eq_none (isCallee.trans callee)]
          rfl

mutual

theorem render_eq_of_alike : ∀ {node alike : Node}, AlikeWhereLive other src alike node →
    ∀ before, alike.render other before = node.render src before
  | form head tail span, alike, same, before => by
    obtain ⟨head', tail', span', rfl, heads, headAlike, tailAlike⟩ := alikeWhereLive_form_iff.1 same
    have cells (callee : head.isCallee = true) : argumentText other tail' = argumentText src tail :=
      argumentText_eq_of_renderAll (renderAll_eq_of_alike (tailAlike callee))
    cases callee : head.isForm with
    | true =>
      have callee' := (isForm_eq_of_headView heads).trans callee
      rw [render_of_form callee, render_of_form callee', cells (isCallee_of_isForm callee),
        render_eq_of_alike (headAlike callee) before]
    | false =>
      have innermost' := (isForm_eq_of_headView heads).trans callee
      rw [render_of_head callee, render_of_head innermost', openingText_eq, openingText_eq, heads]
      rw [HeadView.opening_congr fun called => cells (isCallee_headView src head ▸ called)]
  | atom .., alike, same, before | emptyList _, alike, same, before | endOfInput, alike, same, before
  | foreign _, alike, same, before => by
    have root := same []
    cases alike <;> simp_all [view, render]

theorem renderAll_eq_of_alike : ∀ {nodes alike : List Node},
    List.Forall₂ (AlikeWhereLive other src) alike nodes → renderAll other alike = renderAll src nodes
  | [], alike, same => by
    cases same
    rfl
  | node :: nodes, alike, same => by
    cases same with
    | cons first rest =>
      rw [renderAll, renderAll, render_eq_of_alike first, renderAll_eq_of_alike rest]

end

end Alike

/-- The tree with another node in the place of the one at this path, if there is one. -/
def replaceAt (new : Node) : Node → List Step → Node
  | _, [] => new
  | form head tail span, .head :: path => form (replaceAt new head path) tail span
  | form head tail span, .tail index :: path =>
    form head (tail.modify index fun cell => replaceAt new cell path) span
  | node, _ :: _ => node

theorem replaceAt_of_leaf {node : Node} (leaf : node.isForm = false) (new : Node) (step : Step)
    (path : List Step) : replaceAt new node (step :: path) = node := by
  cases node with
  | form => cases leaf
  | atom | emptyList | endOfInput | foreign => cases step <;> rfl

theorem headView_replaceAt_cons (src : Text) (new head : Node) (step : Step) (path : List Step) :
    (replaceAt new head (step :: path)).headView src = head.headView src := by
  cases head with
  | form => cases step <;> rfl
  | atom | emptyList | endOfInput | foreign => rw [replaceAt_of_leaf rfl]

/-- If the path leads to the head of a live form, the new node is a head of the same sort and text. -/
def KeepsHead (src : Text) (new node : Node) (path : List Step) : Prop :=
  ∀ outer head tail span, path = outer ++ [.head] → node.liveAt? outer = some (form head tail span) →
    new.headView src = head.headView src

section Replacement

variable {src : Text} {new node : Node} {path : List Step}

theorem KeepsHead.inside {child : Node} {step : Step} (keeps : KeepsHead src new node (step :: path))
    (found : node.liveChild? step = some child) : KeepsHead src new child path := by
  intro outer head tail span split live
  refine keeps (step :: outer) head tail span (by rw [split, List.cons_append]) ?_
  rwa [liveAt?_cons, found]

theorem KeepsHead.headView_replaceAt {head : Node} {tail : List Node} {span : Span}
    (keeps : KeepsHead src new (form head tail span) (.head :: path)) :
    (replaceAt new head path).headView src = head.headView src := by
  cases path with
  | nil => exact keeps [] head tail span rfl rfl
  | cons step path => exact headView_replaceAt_cons src new head step path

theorem forall₂_alikeWhereLive_modify {cells : List Node} {index : Nat} {change : Node → Node}
    (alike : ∀ cell, cells[index]? = some cell → AlikeWhereLive src src (change cell) cell) :
    List.Forall₂ (AlikeWhereLive src src) (cells.modify index change) cells := by
  refine forall₂_alikeWhereLive_iff.2 fun other path => ?_
  rw [List.getElem?_modify]
  cases found : cells[other]? with
  | none => rfl
  | some cell =>
    by_cases same : index = other
    · subst same
      simpa using alike cell found path
    · simp [same]

/-- Replacing a node that is not live changes nothing that is live. -/
theorem alikeWhereLive_replaceAt (dead : node.liveAt? path = none)
    (keeps : KeepsHead src new node path) : AlikeWhereLive src src (replaceAt new node path) node := by
  induction path generalizing node with
  | nil => cases dead
  | cons step path ih =>
    have inside {child : Node} (found : node.liveChild? step = some child) :
        AlikeWhereLive src src (replaceAt new child path) child := by
      rw [liveAt?_cons, found] at dead
      exact ih dead (keeps.inside found)
    cases node with
    | atom | emptyList | endOfInput | foreign =>
      rw [replaceAt_of_leaf rfl]
      exact .refl src _
    | form head tail span =>
      cases step with
      | head =>
        have cells := List.forall₂_same.2 fun cell (_ : cell ∈ tail) => AlikeWhereLive.refl src cell
        refine alikeWhereLive_form_iff.2
          ⟨_, tail, span, rfl, keeps.headView_replaceAt, fun callee => ?_, fun _ => cells⟩
        exact inside (if_pos callee)
      | tail index =>
        refine alikeWhereLive_form_iff.2
          ⟨head, _, span, rfl, rfl, fun _ => .refl src head, fun callee => ?_⟩
        exact forall₂_alikeWhereLive_modify fun cell found => inside ((if_pos callee).trans found)

end Replacement

/-- Whatever comes before: rendering fails if and only if a foreign value is live, it names the first one
that is, and else it comes to a text. Trees that are alike where they are live render alike, so that
replacing a node that is not live makes no difference, unless it is the head of a live form and the new
head is of another sort or has another text. -/
theorem render_live (src : Text) (node : Node) (before : Text) :
    ((∃ text, node.render src before = .ok text) ↔
      ∀ path value, node.liveAt? path ≠ some (foreign value)) ∧
    (∀ error, node.render src before = .error error ↔
      ∃ path value, FirstForeign node path value ∧ error = .foreign value) ∧
    (∀ value, (RenderError.foreign value).message = "cannot render ".toList ++ value.name) ∧
    (∀ other alike, AlikeWhereLive other src alike node →
      alike.render other before = node.render src before) ∧
    ∀ path new, node.liveAt? path = none → KeepsHead src new node path →
      (replaceAt new node path).render src before = node.render src before := by
  refine ⟨render_eq_ok_iff_clean src node before, render_eq_error_iff_first src node before,
    RenderError.message_foreign, ?_, ?_⟩
  · intro other alike same
    exact render_eq_of_alike same before
  · intro path new dead keeps
    exact render_eq_of_alike (alikeWhereLive_replaceAt dead keeps) before

/-- A value in the tail of a head comes before one in the tail of the form around it. -/
example (src before : Text) (token : Token) (span : Span) :
    (form (form (atom .symbol token span) [.foreign .token] span) [.foreign .span] span).render src
      before = .error (.foreign .token) := rfl

end SexprCall.Node
