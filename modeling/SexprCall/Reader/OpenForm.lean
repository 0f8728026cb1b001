import SexprCall.Node
import SexprCall.ReadError

/-! The forms that are open while a source is read. They are a stack: each token opens a form,
closes the innermost one or adds a cell to it. -/
namespace SexprCall

/-- A form whose closing parenthesis is still to come, and its cells so far, the last one first. -/
structure OpenForm where
  paren : Token
  cells : List Node

namespace OpenForm

def add (form : OpenForm) (cell : Node) : OpenForm := { form with cells := cell :: form.cells }

def close (form : OpenForm) (paren : Token) : Node :=
  .ofCells form.cells.reverse (form.paren.span.union paren.span)

end OpenForm

/-- What a token leads to: reading goes on with these forms open, or a node outside of all forms is
complete. -/
inductive Progress where
  | going (opened : List OpenForm)
  | complete (node : Node)

/-- Takes a token. The innermost open form comes first. -/
def Progress.take (opened : List OpenForm) (token : Token) : Except ReadError Progress :=
  if token.kind.isTrivia then .ok (.going opened)
  else match opened with
    | [] =>
      if token.kind = .openParen then .ok (.going [⟨token, []⟩]) else .error (.unsupported token)
    | form :: outer =>
      if token.kind ∉ Grammar.formKinds then .error (.unexpected Grammar.formKinds token)
      else if token.kind = .openParen then
        if opened.length < Grammar.maxDepth then .ok (.going (⟨token, []⟩ :: opened))
        else .error (.tooDeep token)
      else if token.kind = .closeParen then
        match outer with
        | [] => .ok (.complete (form.close token))
        | parent :: outer => .ok (.going (parent.add (form.close token) :: outer))
      else .ok (.going (form.add (.ofToken token) :: outer))

/-- The source may end where no form is open. -/
def Progress.finish (opened : List OpenForm) (atEnd : Token) : Except ReadError (Option Node) :=
  match opened with
  | [] => .ok none
  | _ :: _ => .error (.unexpected Grammar.formKinds atEnd)

end SexprCall
