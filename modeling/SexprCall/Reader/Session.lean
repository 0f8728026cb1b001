import SexprCall.Reading

/-! Sessions with a reader: calls for a node, for all nodes left and for a bare token, in any order
and past any error. -/
namespace SexprCall.Reader

inductive Request where
  | next
  | rest
  | token
  deriving Repr

inductive Reply where
  | node (outcome : Except ReadError Node)
  | nodes (nodes : List Node) (error? : Option ReadError)
  | token (token : Token)

def ask (reader : Reader) : Request → Reply × Reader
  | .next => (.node reader.next.1, reader.next.2)
  | .rest => (.nodes reader.readAll.nodes reader.readAll.error?, reader.readAll.reader)
  | .token => (.token reader.cursor.next.1, { reader with cursor := reader.cursor.next.2 })

end SexprCall.Reader
