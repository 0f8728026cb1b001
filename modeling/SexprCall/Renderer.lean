import SexprCall.Reading
import SexprCall.Node.Render

/-! Renderers read a source and give its text of calls. All calls on a renderer share one reader, so
what one call has read, no later call renders. -/
namespace SexprCall

inductive SourceError where
  | reading (error : ReadError)
  | rendering (error : RenderError)
  deriving DecidableEq, Repr

def SourceError.message : SourceError → Text
  | reading error => error.message
  | rendering error => error.message

structure Renderer where
  src : Text
  reader : Reader

namespace Renderer

def ofText (src : Text) : Renderer := ⟨src, .ofText src⟩

/-- The text of nodes outside of all forms is written without anything in between. -/
def renderNodes (src : Text) (nodes : List Node) : Except SourceError Text :=
  match Node.renderAll src nodes with
  | .error error => .error (.rendering error)
  | .ok texts => .ok texts.flatten

def render (renderer : Renderer) : Except SourceError Text × Renderer :=
  let reading := renderer.reader.readAll
  let text := match reading.result with
    | .error error => .error (.reading error)
    | .ok nodes => renderNodes renderer.src nodes
  (text, { renderer with reader := reading.reader })

def next (renderer : Renderer) : Except ReadError Node × Renderer :=
  (renderer.reader.next.1, { renderer with reader := renderer.reader.next.2 })

inductive Request where
  | render
  | next
  deriving Repr

inductive Reply where
  | text (outcome : Except SourceError Text)
  | node (outcome : Except ReadError Node)

def ask (renderer : Renderer) : Request → Reply × Renderer
  | .render => (.text renderer.render.1, renderer.render.2)
  | .next => (.node renderer.next.1, renderer.next.2)

end Renderer

def render (src : Text) : Except SourceError Text := (Renderer.ofText src).render.1

end SexprCall
