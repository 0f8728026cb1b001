import SexprCall.Lexeme

/-! Cursors pull tokens off a source, one at a time. A cursor never fails: past the last token it
gives the end of input again and again. -/
namespace SexprCall

structure Cursor where
  rest : Text
  position : Position
  deriving DecidableEq, Repr

namespace Cursor

def ofText (src : Text) : Cursor := ⟨src, .start⟩

/-- The next token and the cursor after it, unless the source is used up. -/
def next? (cursor : Cursor) : Option (Token × Cursor) :=
  match cursor.rest with
  | [] => none
  | first :: rest =>
    let (lexeme, after) := Lexeme.scan first rest
    some (.ofText cursor.position lexeme.kind lexeme.text,
      ⟨after, cursor.position.advance lexeme.text⟩)

def next (cursor : Cursor) : Token × Cursor :=
  cursor.next?.getD (.atEnd cursor.position, cursor)

theorem next?_eq_none {cursor : Cursor} : cursor.next? = none ↔ cursor.rest = [] := by
  unfold next?; split <;> simp_all

theorem rest_lt_of_next? {cursor after : Cursor} {token : Token}
    (found : cursor.next? = some (token, after)) : after.rest.length < cursor.rest.length := by
  unfold next? at found
  split at found
  · simp at found
  · rename_i first rest whole
    simp only [Option.some.injEq, Prod.mk.injEq] at found
    have shorter := Lexeme.scan_rest_length first rest
    rw [← found.2, whole]
    simp only [List.length_cons]
    omega

/-- At most so many tokens; the end of input is not among them. -/
def take : Nat → Cursor → List Token × Cursor
  | 0, cursor => ([], cursor)
  | count + 1, cursor =>
    match cursor.next? with
    | none => ([], cursor)
    | some (token, after) =>
      let (tokens, last) := take count after
      (token :: tokens, last)

/-- All tokens left. A token has a character at least, so their number is bounded by the length of
the text. -/
def drain (cursor : Cursor) : List Token × Cursor := take cursor.rest.length cursor

def tokens (cursor : Cursor) : List Token := cursor.drain.1

theorem take_of_le {count : Nat} {cursor : Cursor} (enough : cursor.rest.length ≤ count) :
    take count cursor = cursor.drain := by
  suffices ∀ bound (cursor : Cursor) (more : Nat), cursor.rest.length ≤ bound →
      take (bound + more) cursor = take bound cursor by
    obtain ⟨more, rfl⟩ := Nat.exists_eq_add_of_le enough
    exact this _ cursor more (Nat.le_refl _)
  intro bound
  induction bound with
  | zero =>
    intro cursor more short
    have used : cursor.next? = none := next?_eq_none.2 (List.length_eq_zero_iff.1 (by omega))
    cases more <;> simp [take, used]
  | succ bound ih =>
    intro cursor more short
    rw [Nat.add_right_comm]
    cases found : cursor.next? with
    | none => simp [take, found]
    | some pair =>
      have shorter : pair.2.rest.length < cursor.rest.length := rest_lt_of_next? found
      simp only [take, found]
      rw [ih pair.2 more (by omega)]

theorem drain_of_next?_none {cursor : Cursor} (used : cursor.next? = none) :
    cursor.drain = ([], cursor) := by
  have empty := next?_eq_none.1 used
  simp [drain, empty, take]

theorem drain_of_next? {cursor after : Cursor} {token : Token}
    (found : cursor.next? = some (token, after)) :
    cursor.drain = (token :: after.drain.1, after.drain.2) := by
  have shorter := rest_lt_of_next? found
  obtain ⟨count, same⟩ := Nat.exists_eq_add_of_lt shorter
  have all : take (after.rest.length + count) after = after.drain := take_of_le (by omega)
  simp [drain, same, take, found, all]

end Cursor

/-- The tokens of a source, without the end of input. -/
def tokenize (src : Text) : List Token := (Cursor.ofText src).tokens

end SexprCall
