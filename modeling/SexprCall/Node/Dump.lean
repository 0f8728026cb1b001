import SexprCall.Node

/-! Dumps of syntax trees: a line for each leaf, in source order. -/
namespace SexprCall.Node

mutual

def dumpLines (src : Text) : Node → List Text
  | form head tail _ => dumpLines src head ++ dumpLinesAll src tail
  | atom _ token _ => [token.describe src]
  | emptyList span => [span.corners ++ "EmptyList '()'".toList]
  | endOfInput | foreign _ => ["EndOfInput".toList]

def dumpLinesAll (src : Text) : List Node → List Text
  | [] => []
  | node :: nodes => dumpLines src node ++ dumpLinesAll src nodes

end

def dump (src : Text) (node : Node) : Text := Text.joinWith ['\n'] (dumpLines src node)

theorem dumpLinesAll_eq_flatMap (src : Text) (nodes : List Node) :
    dumpLinesAll src nodes = nodes.flatMap (dumpLines src) := by
  induction nodes with
  | nil => rfl
  | cons node nodes ih => simp [dumpLinesAll, ih]

end SexprCall.Node
