import SexprCall.Proofs.Render.Lines

/-! Reading rendered text back. The decoder goes through the lexemes of the text with a stack of open
argument lists: a parenthesis right after a cell calls it, one after spacing begins an empty list. -/
namespace SexprCall

/-- The lexeme stays whole before any text that bounds words. -/
def Lexeme.Steady (lexeme : Lexeme) : Prop :=
  ∀ after, Lexeme.BoundedBy (Lexeme.endsWord · = true) after → lexeme.Fits after

theorem Lexeme.bounded_of_endsWord {c : Char} (ends : endsWord c = true) (text : Text) :
    BoundedBy (endsWord · = true) (c :: text) := BoundedBy.cons ends text

/-- What an open parenthesis interrupted: the cells before it, and the one it calls if it does. -/
structure Level where
  callee? : Option Outline
  before : List Outline

structure Draft where
  cells : List Outline
  outer : List Level
  glued : Bool

namespace Draft

def start : Draft := ⟨[], [], false⟩

def spaced (draft : Draft) : Draft := { draft with glued := false }

def push (draft : Draft) (cell : Outline) : Draft := ⟨cell :: draft.cells, draft.outer, true⟩

def opens (draft : Draft) : Draft :=
  match draft.glued, draft.cells with
  | true, callee :: before => ⟨[], ⟨some callee, before⟩ :: draft.outer, false⟩
  | _, before => ⟨[], ⟨none, before⟩ :: draft.outer, false⟩

def closes (draft : Draft) : Draft :=
  match draft.outer with
  | [] => draft
  | ⟨some callee, before⟩ :: outer => ⟨.form callee draft.cells.reverse :: before, outer, true⟩
  | ⟨none, before⟩ :: outer => ⟨.emptyList :: before, outer, true⟩

def take (draft : Draft) (lexeme : Lexeme) : Draft :=
  match lexeme.kind with
  | .whitespace => draft.spaced
  | .openParen => draft.opens
  | .closeParen => draft.closes
  | kind => draft.push (.atom (.ofTokenKind kind) lexeme)

def read (draft : Draft) (text : Text) : Draft := (Lexeme.ofText text).foldl take draft

@[simp] theorem read_nil (draft : Draft) : draft.read [] = draft := by
  rw [read, Lexeme.ofText_nil, List.foldl_nil]

theorem read_append {lexeme : Lexeme} {after : Text} (fits : lexeme.Fits after) (draft : Draft) :
    draft.read (lexeme.text ++ after) = (draft.take lexeme).read after := by
  rw [read, Lexeme.ofText_append fits, List.foldl_cons, read]

theorem read_openParen (draft : Draft) (text : Text) :
    draft.read ('(' :: text) = draft.opens.read text := by
  have fits : Lexeme.Fits ⟨.openParen, ['(']⟩ text := .single rfl
  exact read_append fits draft

theorem read_closeParen (draft : Draft) (text : Text) :
    draft.read (')' :: text) = draft.closes.read text := by
  have fits : Lexeme.Fits ⟨.closeParen, [')']⟩ text := .single rfl
  exact read_append fits draft

/-- Spacing counts for the same however much there is of it. -/
theorem read_spacing {c : Char} (spacing : Lexeme.isSpacing c = true) (draft : Draft)
    (text : Text) : draft.read (c :: text) = draft.spaced.read text := by
  have split := List.takeWhile_append_dropWhile (p := Lexeme.isSpacing) (l := text)
  have bounded := Lexeme.dropWhile_bounded Lexeme.isSpacing text
  have inside : ∀ d ∈ text.takeWhile Lexeme.isSpacing, Lexeme.isSpacing d = true :=
    fun d member => Lexeme.of_mem_takeWhile member
  generalize text.takeWhile Lexeme.isSpacing = blanks at split inside
  generalize text.dropWhile Lexeme.isSpacing = rest at split bounded
  subst split
  have first : draft.read (c :: blanks ++ rest) = draft.spaced.read rest :=
    read_append (.spacing (List.forall_mem_cons.2 ⟨spacing, inside⟩) bounded) draft
  -- Spacing after the character is one lexeme with it here and a lexeme of its own there.
  cases blanks with
  | nil => exact first
  | cons d blanks =>
    have second : draft.spaced.read (d :: blanks ++ rest) = draft.spaced.spaced.read rest :=
      read_append (.spacing inside bounded) draft.spaced
    exact first.trans second.symm

theorem take_atom {lexeme : Lexeme} (kind : lexeme.kind ∈ Grammar.atomKinds) (draft : Draft) :
    draft.take lexeme = draft.push (.atom (.ofTokenKind lexeme.kind) lexeme) := by
  unfold take
  split <;> simp_all [Grammar.atomKinds, Grammar.symbolKinds, Grammar.literalKinds]

/-- A line feed in front of arguments makes no difference. -/
theorem read_strip {draft : Draft} (apart : draft.glued = false) {feed : Bool} {text : Text}
    (lined : Text.Lined feed text) (rest : Text) :
    draft.read (text.strip ++ rest) = draft.read (text ++ rest) := by
  rw [lined.strip]
  cases lined with
  | plain => rfl
  | @feed body =>
    have same : draft.spaced = draft := by rw [spaced, ← apart]
    have fed := @read_spacing '\n' rfl draft (body ++ rest)
    rw [same] at fed
    exact fed.symm

theorem cells_foldl_push (cells : List Outline) (draft : Draft) :
    (cells.foldl push draft).cells = cells.reverse ++ draft.cells := by
  induction cells generalizing draft with
  | nil => rfl
  | cons cell cells ih => simp [ih, push]

theorem outer_foldl_push (cells : List Outline) (draft : Draft) :
    (cells.foldl push draft).outer = draft.outer := by
  induction cells generalizing draft with
  | nil => rfl
  | cons cell cells ih => simp [ih, push]

end Draft

namespace Outline

open Draft Lexeme

def isCallee : Outline → Bool
  | form .. | atom .symbol _ => true
  | atom .literal _ | emptyList | endOfInput | foreign _ => false

/-- No head drops the rest of its form, and all atoms can be told from what follows them. -/
inductive Plain : Outline → Prop where
  | atom {lexeme : Lexeme} : lexeme.kind ∈ Grammar.atomKinds → lexeme.Steady →
      lexeme.text.Trimmed → Plain (.atom (.ofTokenKind lexeme.kind) lexeme)
  | emptyList : Plain .emptyList
  | form {head tail} : head.isCallee = true → Plain head → (∀ cell ∈ tail, Plain cell) →
      Plain (.form head tail)

theorem Plain.sound {outline : Outline} (plain : Plain outline) : Sound outline := by
  induction plain with
  | atom _ steady trimmed =>
    have fits := steady [] (boundedBy_nil _)
    exact .atom fits.text_ne_nil trimmed
  | emptyList => exact .emptyList
  | form _ _ _ ihHead ihTail => exact .form ihHead ihTail

theorem Plain.isAtom_innermost {outline : Outline} (plain : Plain outline)
    (more : outline ≠ .emptyList) : outline.innermost.isAtom = true := by
  induction plain with
  | atom => rfl
  | emptyList => exact absurd rfl more
  | form callee _ _ ihHead =>
    apply ihHead
    rintro rfl
    simp [isCallee] at callee

def Decodes (cell : Outline) : Prop :=
  ∀ (draft : Draft) (rest : Text), draft.glued = false → BoundedBy (endsWord · = true) rest →
    draft.read (cell.text ++ rest) = (draft.push cell).read rest

theorem read_join {cells : List Outline} (decodes : ∀ cell ∈ cells, Decodes cell) {draft : Draft}
    (apart : draft.glued = false) {rest : Text} (bounded : BoundedBy (endsWord · = true) rest) :
    draft.read (Text.joinWith [' '] (cells.map text) ++ rest) = (cells.foldl push draft).read rest := by
  induction cells generalizing draft with
  | nil => rfl
  | cons cell cells ih =>
    rw [List.forall_mem_cons] at decodes
    obtain ⟨first, others⟩ := decodes
    cases cells with
    | nil => simpa [Text.joinWith] using first draft rest apart bounded
    | cons other cells =>
      have step := first draft (' ' :: (Text.joinWith [' '] ((other :: cells).map text) ++ rest))
        apart (bounded_of_endsWord rfl _)
      rw [read_spacing rfl, ih others rfl] at step
      rw [List.map_cons, List.map_cons, Text.joinWith_cons_cons, List.append_assoc]
      exact step

/-- Arguments are read onto the cell that they follow. -/
theorem read_arguments {cells : List Outline} (plain : ∀ cell ∈ cells, Plain cell)
    (decodes : ∀ cell ∈ cells, Decodes cell) (draft : Draft) (callee : Outline) (rest : Text) :
    (draft.push callee).read (Node.arguments (cells.map text) ++ rest) =
      (draft.push (.form callee cells)).read rest := by
  let inside : Draft := ⟨[], ⟨some callee, draft.cells⟩ :: draft.outer, false⟩
  have bounded : BoundedBy (endsWord · = true) (')' :: rest) :=
    bounded_of_endsWord rfl rest
  have stripped : inside.read ((Text.joinWith [' '] (cells.map text)).strip ++ ')' :: rest) =
      inside.read (Text.joinWith [' '] (cells.map text) ++ ')' :: rest) := by
    cases cells with
    | nil => rfl
    | cons cell cells =>
      exact read_strip rfl (lined_join fun other member => (plain other member).sound) _
  have closed : (cells.foldl push inside).closes = draft.push (.form callee cells) := by
    simp [closes, outer_foldl_push, cells_foldl_push, inside, push]
  calc (draft.push callee).read (Node.arguments (cells.map text) ++ rest)
      = inside.read ((Text.joinWith [' '] (cells.map text)).strip ++ ')' :: rest) := by
        rw [Node.arguments, List.cons_append, List.cons_append, List.append_assoc, read_openParen]
        rfl
    _ = (cells.foldl push inside).read (')' :: rest) := by
        rw [stripped, read_join decodes rfl bounded]
    _ = (draft.push (.form callee cells)).read rest := by
        rw [read_closeParen, closed]

theorem boundedBy_arguments (rendered : List Text) (rest : Text) :
    BoundedBy (endsWord · = true) (Node.arguments rendered ++ rest) :=
  bounded_of_endsWord rfl _

/-- Each plain outline is read back. -/
theorem Plain.decodes {outline : Outline} (plain : Plain outline) : Decodes outline := by
  induction plain with
  | atom kind steady _ =>
    intro draft rest _ bounded
    rw [← take_atom kind]
    exact read_append (steady rest bounded) draft
  | emptyList =>
    intro draft rest apart _
    have opened : draft.opens = ⟨[], ⟨none, draft.cells⟩ :: draft.outer, false⟩ := by
      simp [opens, apart]
    have closed : draft.opens.closes = draft.push .emptyList := by rw [opened]; rfl
    rw [← closed, ← read_closeParen, ← read_openParen]
    rfl
  | @form head tail callee head_plain tail_plain ihHead ihTail =>
    intro draft rest apart _
    have rendered : renderAll tail = .ok (tail.map text) :=
      renderAll_of_render fun cell member => (tail_plain cell member).sound.renders.1
    have arguments := read_arguments tail_plain ihTail draft head rest
    rw [← arguments]
    cases head with
    | form head cells =>
      have text := text_of_render (render_form_form head_plain.sound.renders.1 rendered)
      rw [text, List.append_assoc]
      exact ihHead draft _ apart (boundedBy_arguments _ rest)
    | atom kind lexeme =>
      obtain rfl : kind = .symbol := by
        cases kind
        · simp [isCallee] at callee
        · rfl
      have text := text_of_render (@render_form_symbol lexeme tail rendered)
      have same : draft.spaced = draft := by rw [spaced, ← apart]
      rw [text, List.cons_append, List.append_assoc, read_spacing rfl, same]
      exact ihHead draft _ apart (boundedBy_arguments _ rest)
    | emptyList | endOfInput | foreign => simp [isCallee] at callee

/-- Texts that begin on lines of their own bound words. -/
theorem boundedBy_flatten {texts : List Text} (lined : ∀ text ∈ texts, Text.Lined true text) :
    BoundedBy (endsWord · = true) texts.flatten := by
  cases texts with
  | nil => exact boundedBy_nil _
  | cons text texts =>
    cases lined text List.mem_cons_self
    exact bounded_of_endsWord rfl _

/-- Forms outside of all forms need nothing in between, since each begins on a line of its own. -/
theorem read_flatten {outlines : List Outline} (plain : ∀ outline ∈ outlines, Plain outline)
    (forms : ∀ outline ∈ outlines, outline.startsLine = true) (draft : Draft) :
    draft.read (outlines.map text).flatten = outlines.foldl push draft := by
  induction outlines generalizing draft with
  | nil => exact read_nil draft
  | cons outline outlines ih =>
    rw [List.forall_mem_cons] at plain forms
    have lined {other : Outline} (sound : Plain other) (form : other.startsLine = true) :
        Text.Lined true other.text := form ▸ sound.sound.renders.2
    have bounded : BoundedBy (endsWord · = true) (outlines.map text).flatten := by
      refine boundedBy_flatten fun text member => ?_
      obtain ⟨other, among, rfl⟩ := List.mem_map.1 member
      exact lined (plain.2 other among) (forms.2 other among)
    have apart : draft.read (outline.text ++ (outlines.map text).flatten) =
        draft.spaced.read (outline.text ++ (outlines.map text).flatten) := by
      have feed := lined plain.1 forms.1
      generalize outline.text = text at feed
      cases feed
      exact (read_spacing rfl draft _).trans (read_spacing rfl draft.spaced _).symm
    rw [List.map_cons, List.flatten_cons, apart, plain.1.decodes draft.spaced _ rfl bounded]
    exact ih plain.2 forms.2 (draft.spaced.push outline)

/-- Plain forms are known from their text. -/
theorem eq_of_flatten_text {outlines others : List Outline}
    (plain : ∀ outline ∈ outlines, Plain outline) (plain' : ∀ outline ∈ others, Plain outline)
    (forms : ∀ outline ∈ outlines, outline.startsLine = true)
    (forms' : ∀ outline ∈ others, outline.startsLine = true)
    (same : (outlines.map text).flatten = (others.map text).flatten) : outlines = others := by
  have read := read_flatten plain forms start
  rw [same, read_flatten plain' forms' start] at read
  have cells := congrArg Draft.cells read
  simp only [cells_foldl_push, start, List.append_nil] at cells
  exact (List.reverse_inj.1 cells).symm

end Outline
end SexprCall
