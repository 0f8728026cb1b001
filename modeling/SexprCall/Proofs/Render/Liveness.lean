import SexprCall.Proofs.Render.Injectivity
import SexprCall.Proofs.Render.Unrolling

/-! Which nodes of a tree rendering comes to. It fails at the first of them that holds a foreign value,
and at no other node. -/
namespace SexprCall

def Foreign.name : Foreign → Text
  | span => "Span".toList
  | token => "Token".toList

theorem RenderError.message_foreign (value : Foreign) :
    (foreign value).message = "cannot render ".toList ++ value.name := by
  cases value <;> rfl

namespace Node

/-- The cell at this step if rendering comes from the node to it: a head that is a form, and the tail
that a form or a symbol is called with. -/
def liveChild? (node : Node) (step : Step) : Option Node :=
  match node, step with
  | form head _ _, .head => if head.isForm then some head else none
  | form head tail _, .tail index => if head.isCallee then tail[index]? else none
  | _, _ => none

/-- The node at this path if rendering comes to it. The root is live. -/
def liveAt? (node : Node) (path : List Step) : Option Node := path.foldlM liveChild? node

@[simp] theorem liveAt?_nil (node : Node) : node.liveAt? [] = some node := rfl

theorem liveAt?_cons (node : Node) (step : Step) (path : List Step) :
    node.liveAt? (step :: path) = (node.liveChild? step).bind (·.liveAt? path) := rfl

section Steps

variable {head : Node} {tail : List Node} {span : Span} {path : List Step}

theorem liveAt?_head (callee : head.isForm = true) :
    (form head tail span).liveAt? (.head :: path) = head.liveAt? path := by
  simp [liveAt?_cons, liveChild?, callee]

theorem liveAt?_head_eq_none (innermost : head.isForm = false) :
    (form head tail span).liveAt? (.head :: path) = none := by
  simp [liveAt?_cons, liveChild?, innermost]

theorem liveAt?_tail (callee : head.isCallee = true) (index : Nat) :
    (form head tail span).liveAt? (.tail index :: path) = tail[index]?.bind (·.liveAt? path) := by
  simp [liveAt?_cons, liveChild?, callee]

theorem liveAt?_tail_eq_none (drops : head.isCallee = false) (index : Nat) :
    (form head tail span).liveAt? (.tail index :: path) = none := by
  simp [liveAt?_cons, liveChild?, drops]

theorem isCallee_of_isForm (callee : head.isForm = true) : head.isCallee = true := by
  cases head with
  | form => rfl
  | atom | emptyList | endOfInput | foreign => cases callee

/-- There is nothing live inside a node that is no form. -/
theorem liveAt?_cons_of_leaf {node : Node} (leaf : node.isForm = false) (step : Step) :
    node.liveAt? (step :: path) = none := by
  cases node with
  | form => cases leaf
  | atom | emptyList | endOfInput | foreign => cases step <;> rfl

end Steps

/-- The order rendering comes to nodes in: heads before tails, and tails from left to right. -/
inductive Before : List Step → List Step → Prop where
  | head {index : Nat} {path other : List Step} : Before (.head :: path) (.tail index :: other)
  | tail {index later : Nat} {path other : List Step} (less : index < later) :
      Before (.tail index :: path) (.tail later :: other)
  | inside {step : Step} {path other : List Step} (before : Before path other) :
      Before (step :: path) (step :: other)

theorem Before.asymm {path other : List Step} (before : Before path other) : ¬ Before other path := by
  induction before with
  | head =>
    intro after
    cases after
  | tail less =>
    intro after
    cases after with
    | tail more => exact Nat.lt_asymm less more
    | inside => exact Nat.lt_irrefl _ less
  | inside _ ih =>
    intro after
    cases after with
    | tail less => exact Nat.lt_irrefl _ less
    | inside after => exact ih after

def Clean (node : Node) : Prop := ∀ path value, node.liveAt? path ≠ some (foreign value)

structure FirstForeign (node : Node) (path : List Step) (value : Foreign) : Prop where
  live : node.liveAt? path = some (foreign value)
  first : ∀ other value', node.liveAt? other = some (foreign value') → path = other ∨ Before path other

theorem FirstForeign.unique {node : Node} {path other : List Step} {value value' : Foreign}
    (first : FirstForeign node path value) (second : FirstForeign node other value') :
    value = value' := by
  obtain rfl | before := first.first other value' second.live
  · simpa [first.live] using second.live
  obtain rfl | after := second.first path value first.live
  · simpa [first.live] using second.live
  · exact absurd after before.asymm

theorem firstForeign_foreign (value : Foreign) : FirstForeign (foreign value) [] value := by
  refine ⟨rfl, fun other value' live => ?_⟩
  cases other with
  | nil => exact .inl rfl
  | cons step other =>
    rw [liveAt?_cons_of_leaf rfl] at live
    cases live

theorem clean_of_leaf {node : Node} (leaf : node.isForm = false)
    (known : ∀ value, node ≠ foreign value) : Clean node := by
  intro path value live
  cases path with
  | nil => exact known value (Option.some.inj live)
  | cons step path =>
    rw [liveAt?_cons_of_leaf leaf] at live
    cases live

section Forms

variable {head : Node} {tail : List Node} {span : Span}

theorem clean_form (headClean : head.isForm = true → Clean head)
    (tailClean : head.isCallee = true → ∀ cell ∈ tail, Clean cell) :
    Clean (form head tail span) := by
  intro path value live
  match path with
  | [] => cases live
  | .head :: path =>
    cases callee : head.isForm with
    | true => exact headClean callee path value (liveAt?_head callee ▸ live)
    | false => simp [liveAt?_head_eq_none callee] at live
  | .tail index :: path =>
    cases callee : head.isCallee with
    | true =>
      rw [liveAt?_tail callee] at live
      obtain ⟨cell, found, live⟩ := Option.bind_eq_some_iff.1 live
      exact tailClean callee cell (List.mem_of_getElem? found) path value live
    | false => simp [liveAt?_tail_eq_none callee] at live

theorem FirstForeign.form_head {path : List Step} {value : Foreign} (callee : head.isForm = true)
    (first : FirstForeign head path value) :
    FirstForeign (form head tail span) (.head :: path) value := by
  refine ⟨(liveAt?_head callee).trans first.live, fun other value' live => ?_⟩
  match other with
  | [] => cases live
  | .head :: other =>
    have order := first.first other value' (liveAt?_head callee ▸ live)
    exact order.imp (congrArg _) .inside
  | .tail index :: other => exact .inr .head

theorem FirstForeign.form_tail {earlier later : List Node} {cell : Node} {path : List Step}
    {value : Foreign} (callee : head.isCallee = true) (headClean : head.isForm = true → Clean head)
    (split : tail = earlier ++ cell :: later) (tailClean : ∀ other ∈ earlier, Clean other)
    (first : FirstForeign cell path value) :
    FirstForeign (form head tail span) (.tail earlier.length :: path) value := by
  subst split
  refine ⟨?_, fun other value' live => ?_⟩
  · simpa [liveAt?_tail callee] using first.live
  match other with
  | [] => cases live
  | .head :: other =>
    cases form : head.isForm with
    | true => exact absurd (liveAt?_head form ▸ live) (headClean form other value')
    | false => simp [liveAt?_head_eq_none form] at live
  | .tail index :: other =>
    rw [liveAt?_tail callee] at live
    obtain ⟨found, atIndex, live⟩ := Option.bind_eq_some_iff.1 live
    rcases Nat.lt_trichotomy index earlier.length with before | rfl | after
    · rw [List.getElem?_append_left before] at atIndex
      exact absurd live (tailClean found (List.mem_of_getElem? atIndex) other value')
    · obtain rfl : cell = found := by simpa using atIndex
      exact (first.first other value' live).imp (congrArg _) .inside
    · exact .inr (.tail after)

end Forms

/-- Rendering comes to a text where all live nodes are clean, and else to the error of the first that
is not. -/
def Meets (node : Node) : Except RenderError Text → Prop
  | .ok _ => Clean node
  | .error (.foreign value) => ∃ path, FirstForeign node path value

def MeetsAll (nodes : List Node) : Except RenderError (List Text) → Prop
  | .ok _ => ∀ node ∈ nodes, Clean node
  | .error (.foreign value) => ∃ earlier node later path, nodes = earlier ++ node :: later ∧
      (∀ other ∈ earlier, Clean other) ∧ FirstForeign node path value

theorem MeetsAll.form {head : Node} {tail : List Node} {span : Span}
    {called : Except RenderError (List Text)} (cells : MeetsAll tail called)
    (callee : head.isCallee = true) (headClean : head.isForm = true → Clean head)
    (text : List Text → Text) : Meets (form head tail span) (called.map text) := by
  match called with
  | .ok _ => exact clean_form headClean fun _ => cells
  | .error (.foreign value) =>
    obtain ⟨earlier, cell, later, path, split, clean, first⟩ := cells
    exact ⟨_, first.form_tail callee headClean split clean⟩

mutual

theorem render_meets (src : Text) :
    ∀ (node : Node) (before : Text), Meets node (node.render src before)
  | form head tail span, before => by
    have front := render_meets src head before
    have cells := renderAll_meets src tail
    cases head with
    | form =>
      rw [render]
      revert front
      rcases (form ..).render src before with ⟨⟨value⟩⟩ | callee
      · rintro ⟨path, first⟩
        exact ⟨_, first.form_head rfl⟩
      · intro clean
        exact cells.form rfl (fun _ => clean) fun texts => callee ++ arguments texts
    | atom kind token =>
      cases kind with
      | literal => exact clean_form (by simp [isForm]) (by simp [isCallee])
      | symbol =>
        rw [render]
        exact cells.form rfl (by simp [isForm])
          fun texts => before ++ '\n' :: token.text src ++ arguments texts
    | emptyList | endOfInput | foreign => exact clean_form (by simp [isForm]) (by simp [isCallee])
  | atom .., _ | emptyList _, _ | endOfInput, _ => clean_of_leaf rfl (by simp)
  | foreign value, _ => ⟨[], firstForeign_foreign value⟩

theorem renderAll_meets (src : Text) : ∀ nodes : List Node, MeetsAll nodes (renderAll src nodes)
  | [] => List.forall_mem_nil _
  | node :: nodes => by
    have one := render_meets src node []
    have rest := renderAll_meets src nodes
    rw [renderAll]
    revert one rest
    rcases node.render src [] with ⟨⟨value⟩⟩ | text
    · rintro ⟨path, first⟩ -
      exact ⟨[], node, nodes, path, rfl, List.forall_mem_nil _, first⟩
    · intro clean
      rcases renderAll src nodes with ⟨⟨value⟩⟩ | texts
      · rintro ⟨earlier, cell, later, path, rfl, others, first⟩
        exact ⟨node :: earlier, cell, later, path, rfl, List.forall_mem_cons.2 ⟨clean, others⟩, first⟩
      · intro others
        exact List.forall_mem_cons.2 ⟨clean, others⟩

end

theorem render_eq_ok_iff_clean (src : Text) (node : Node) (before : Text) :
    (∃ text, node.render src before = .ok text) ↔ Clean node := by
  have meets := render_meets src node before
  generalize node.render src before = result at meets ⊢
  match result, meets with
  | .ok text, clean => exact ⟨fun _ => clean, fun _ => ⟨text, rfl⟩⟩
  | .error (.foreign value), ⟨path, first⟩ =>
    simpa using fun clean : Clean node => clean path value first.live

theorem render_eq_error_iff_first (src : Text) (node : Node) (before : Text) (error : RenderError) :
    node.render src before = .error error ↔
      ∃ path value, FirstForeign node path value ∧ error = .foreign value := by
  have meets := render_meets src node before
  generalize node.render src before = result at meets ⊢
  match result, meets with
  | .ok text, clean =>
    constructor
    · intro same
      cases same
    · rintro ⟨path, value, first, -⟩
      exact absurd first.live (clean path value)
  | .error (.foreign value), ⟨path, first⟩ =>
    constructor
    · intro same
      obtain rfl := Except.error.inj same
      exact ⟨path, value, first, rfl⟩
    · rintro ⟨path', value', first', rfl⟩
      rw [first.unique first']

end Node
end SexprCall
