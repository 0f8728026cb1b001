import SexprCall.Node
import SexprCall.Text.Blank

/-! Syntax trees as text of calls: `(f x y)` becomes `f(x y)` on a line of its own, and the head of
a head is called first, so `((f x) y)` becomes `f(x)(y)`. -/
namespace SexprCall

inductive RenderError where
  | foreign (value : Foreign)
  deriving DecidableEq, Repr

def RenderError.message : RenderError → Text
  | foreign .span => "cannot render Span".toList
  | foreign .token => "cannot render Token".toList

namespace Node

/-- Arguments stand between parentheses, with a space between two of them and no blanks at the
ends. -/
def arguments (rendered : List Text) : Text :=
  '(' :: Text.strip (Text.joinWith [' '] rendered) ++ [')']

mutual

/-- The text of a node after the text `before`. Only forms and the end of input go on from
`before`, other nodes replace it. A form calls what its head renders to, except that the arguments
of a literal or of an empty list are dropped, and a form whose head is no syntax has no text. -/
def render (src : Text) : Node → (before : Text) → Except RenderError Text
  | form head tail _, before =>
    match head with
    | form .. => do
      let callee ← render src head before
      let rendered ← renderAll src tail
      return callee ++ arguments rendered
    | atom .literal token _ => .ok (before ++ '\n' :: token.text src)
    | atom .symbol token _ => do
      let rendered ← renderAll src tail
      return before ++ '\n' :: token.text src ++ arguments rendered
    | emptyList _ => .ok (before ++ ['(', ')'])
    | endOfInput | foreign _ => .ok before
  | atom _ token _, _ => .ok (token.text src)
  | emptyList _, _ => .ok ['(', ')']
  | endOfInput, before => .ok before
  | foreign value, _ => .error (.foreign value)

def renderAll (src : Text) : List Node → Except RenderError (List Text)
  | [] => .ok []
  | node :: nodes => do
    let text ← render src node []
    let texts ← renderAll src nodes
    return text :: texts

end

end Node
end SexprCall
