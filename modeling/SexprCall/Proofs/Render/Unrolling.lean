import Mathlib.Data.List.Induction
import SexprCall.Node.Render

/-! Forms taken apart along their heads. The text of a form is what its innermost head opens with and
then the arguments of one call after another; what comes before the form only stands in front of it. -/
namespace SexprCall

namespace Node

def isForm : Node → Bool
  | form .. => true
  | atom .. | emptyList _ | endOfInput | foreign _ => false

/-- The innermost head, the tail of its form, and the tails of the forms around this one, from the inside
out. -/
structure Spine where
  head : Node
  tail : List Node
  span : Span
  outer : List (List Node × Span)

/-- The forms put together again, each the head of the next one. -/
def Spine.node (spine : Spine) : Node :=
  spine.outer.foldl (fun callee (tail, span) => form callee tail span)
    (form spine.head spine.tail spine.span)

/-- The spine of a form; other nodes have none. -/
def spine? : Node → Option Spine
  | form head tail span =>
    match head.spine? with
    | none => some ⟨head, tail, span, []⟩
    | some spine => some { spine with outer := spine.outer ++ [(tail, span)] }
  | atom .. | emptyList _ | endOfInput | foreign _ => none

def argumentText (src : Text) (tail : List Node) : Except RenderError Text := do
  let rendered ← tail.mapM fun node => node.render src []
  return Text.strip (Text.joinWith [' '] rendered)

/-- Only a symbol is called with the tail of its form. -/
def openingText (src : Text) (head : Node) (tail : List Node) : Except RenderError Text :=
  match head with
  | atom .symbol token _ => do
    let called ← argumentText src tail
    return '\n' :: token.text src ++ '(' :: called ++ [')']
  | atom .literal token _ => .ok ('\n' :: token.text src)
  | emptyList _ => .ok ['(', ')']
  | form .. | endOfInput | foreign _ => .ok []

/-- What the innermost head opens with, then a pair of parentheses for each form around. -/
def Spine.text (src : Text) (spine : Spine) : Except RenderError Text := do
  let front ← openingText src spine.head spine.tail
  let calls ← spine.outer.mapM fun (tail, _) => argumentText src tail
  return front ++ calls.flatMap fun called => '(' :: called ++ [')']

theorem spine?_eq_none_iff {node : Node} : node.spine? = none ↔ node.isForm = false := by
  cases node with
  | form head => cases inner : head.spine? <;> simp [spine?, inner, isForm]
  | _ => simp [spine?, isForm]

theorem exists_spine (head : Node) (tail : List Node) (span : Span) :
    ∃ spine, (form head tail span).spine? = some spine := by
  apply Option.ne_none_iff_exists'.1
  simp [spine?_eq_none_iff, isForm]

theorem Spine.node_concat (spine : Spine) (tail : List Node) (span : Span) :
    Spine.node { spine with outer := spine.outer ++ [(tail, span)] } = form spine.node tail span := by
  simp [node]

theorem Spine.spine?_node {spine : Spine} (innermost : spine.head.isForm = false) :
    spine.node.spine? = some spine := by
  obtain ⟨head, tail, span, outer⟩ := spine
  induction outer using List.reverseRecOn with
  | nil => rw [node, List.foldl_nil, Node.spine?, spine?_eq_none_iff.2 innermost]
  | append_singleton outer call ih =>
    let inner : Spine := ⟨head, tail, span, outer⟩
    have same : Spine.node ⟨head, tail, span, outer ++ [call]⟩ = form inner.node call.1 call.2 :=
      inner.node_concat call.1 call.2
    rw [same, Node.spine?, ih innermost]

/-- Each form is put together from its spine, and in no other way. -/
theorem spine?_eq_some_iff {node : Node} {spine : Spine} :
    node.spine? = some spine ↔ spine.head.isForm = false ∧ node = spine.node := by
  constructor
  · intro found
    fun_induction spine? node generalizing spine with
    | case1 head tail span none =>
      obtain rfl := Option.some.inj found
      exact ⟨spine?_eq_none_iff.1 none, rfl⟩
    | case2 head tail span inner found' ih =>
      obtain rfl := Option.some.inj found
      obtain ⟨innermost, rfl⟩ := ih found'
      exact ⟨innermost, (inner.node_concat tail span).symm⟩
    | case3 | case4 | case5 | case6 => cases found
  · rintro ⟨innermost, rfl⟩
    exact Spine.spine?_node innermost

theorem renderAll_eq_mapM (src : Text) (nodes : List Node) :
    renderAll src nodes = nodes.mapM fun node => node.render src [] := by
  induction nodes with
  | nil => rfl
  | cons node nodes ih => rw [renderAll, List.mapM_cons, ih]

variable {src : Text}

/-- Over a head that is no form, what comes before is never read. -/
theorem render_of_head {head : Node} (innermost : head.isForm = false) (tail : List Node)
    (span : Span) (before : Text) :
    (form head tail span).render src before = (openingText src head tail).map (before ++ ·) := by
  cases head with
  | form => cases innermost
  | atom kind token =>
    cases kind with
    | literal => rfl
    | symbol =>
      rw [render, renderAll_eq_mapM, openingText, argumentText]
      cases tail.mapM fun node => node.render src [] with
      | error error => rfl
      | ok rendered => simp [arguments, Bind.bind, Except.bind, Pure.pure, Except.pure, Except.map]
  | emptyList => rfl
  | endOfInput | foreign => simp [render, openingText, Except.map]

/-- A form as the head is called with the tail. -/
theorem render_of_form {head : Node} (callee : head.isForm = true) (tail : List Node) (span : Span)
    (before : Text) :
    (form head tail span).render src before = do
      let callee ← head.render src before
      let called ← argumentText src tail
      return callee ++ ('(' :: called ++ [')']) := by
  cases head with
  | form =>
    rw [render, renderAll_eq_mapM]
    simp only [argumentText, arguments, bind_assoc, pure_bind]
  | atom | emptyList | endOfInput | foreign => cases callee

theorem Spine.text_nil (head : Node) (tail : List Node) (span : Span) :
    Spine.text src ⟨head, tail, span, []⟩ = openingText src head tail := by
  simp [Spine.text]

theorem Spine.text_concat (spine : Spine) (tail : List Node) (span : Span) :
    Spine.text src { spine with outer := spine.outer ++ [(tail, span)] } = do
      let callee ← spine.text src
      let called ← argumentText src tail
      return callee ++ ('(' :: called ++ [')']) := by
  simp [Spine.text]

theorem render_of_spine {node : Node} {spine : Spine} (found : node.spine? = some spine)
    (before : Text) : node.render src before = (spine.text src).map (before ++ ·) := by
  fun_induction spine? node generalizing spine with
  | case1 head tail span none =>
    obtain rfl := Option.some.inj found
    rw [render_of_head (spine?_eq_none_iff.1 none), Spine.text_nil]
  | case2 head tail span inner found' ih =>
    obtain rfl := Option.some.inj found
    have callee : head.isForm = true := by
      rw [← Bool.not_eq_false, ← spine?_eq_none_iff, found']
      exact Option.some_ne_none inner
    rw [render_of_form callee, Spine.text_concat, ih found']
    cases inner.text src with
    | error error => rfl
    | ok front =>
      cases argumentText src tail with
      | error error => rfl
      | ok called => simp [Except.map, Bind.bind, Except.bind, Pure.pure, Except.pure]
  | case3 | case4 | case5 | case6 => cases found

/-- Each form is put together from one innermost head that is no form. Its text is what this head opens
with and then one pair of parentheses with arguments for each form around, from the inside out, all of it
after what comes before the form; and where something cannot be rendered, the error does not depend on
what comes before. -/
theorem render_form (src : Text) (head : Node) (tail : List Node) (span : Span) :
    let node := form head tail span
    ∃ spine : Spine, spine.head.isForm = false ∧ node = spine.node ∧
      (∀ other : Spine, other.head.isForm = false → node = other.node → other = spine) ∧
      ∀ before, node.render src before = (spine.text src).map (before ++ ·) ∧
        node.render src before = (node.render src []).map (before ++ ·) := by
  intro node
  obtain ⟨spine, found⟩ := exists_spine head tail span
  obtain ⟨innermost, same⟩ := spine?_eq_some_iff.1 found
  refine ⟨spine, innermost, same, ?_, fun before => ⟨render_of_spine found before, ?_⟩⟩
  · intro other innermost same
    have found' : node.spine? = some other := spine?_eq_some_iff.2 ⟨innermost, same⟩
    exact Option.some.inj (found'.symm.trans found)
  · rw [render_of_spine found before, render_of_spine found []]
    cases spine.text src <;> rfl

/-- What a head that is no symbol drops is not rendered, even where it could not be. -/
example (src before : Text) (span : Span) :
    (form (form .endOfInput [.foreign .token] span) [.emptyList span] span).render src before =
      .ok (before ++ "(())".toList) := rfl

end Node
end SexprCall
