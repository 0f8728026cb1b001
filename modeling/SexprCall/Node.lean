import SexprCall.Token

/-! Syntax trees. A node keeps the token or the span it came from, not its text. -/
namespace SexprCall

inductive AtomKind where
  | literal
  | symbol
  deriving DecidableEq, Repr

namespace AtomKind

def all : List AtomKind := [literal, symbol]

def name : AtomKind → Text
  | literal => "Literal".toList
  | symbol => "Symbol".toList

/-- Words are symbols, all other atoms literals. -/
def ofTokenKind : TokenKind → AtomKind
  | .identifier | .keyword => symbol
  | _ => literal

end AtomKind

/-- Values that may stand in a node's place in a tree built by hand, and are none. -/
inductive Foreign where
  | span
  | token
  deriving DecidableEq, Repr

/-- The first cell of a form is its head, the others are its tail. Reading gives forms and empty
lists, made of these and atoms; the end of input only stands for there being no more of them. -/
inductive Node where
  | form (head : Node) (tail : List Node) (span : Span)
  | atom (kind : AtomKind) (token : Token) (span : Span)
  | emptyList (span : Span)
  | endOfInput
  | foreign (value : Foreign)
  deriving Repr

namespace Node

def ofToken (token : Token) : Node := atom (.ofTokenKind token.kind) token token.span

/-- What stands between two parentheses, as a node. -/
def ofCells (cells : List Node) (span : Span) : Node :=
  match cells with
  | [] => emptyList span
  | head :: tail => form head tail span

inductive Step where
  | head
  | tail (index : Nat)

def child? : Node → Step → Option Node
  | form head _ _, .head => some head
  | form _ tail _, .tail index => tail[index]?
  | _, _ => none

def at? (node : Node) (path : List Step) : Option Node := path.foldlM child? node

end Node
end SexprCall
