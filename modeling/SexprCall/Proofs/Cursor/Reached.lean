import SexprCall.Cursor.Family
import SexprCall.Proofs.Cursor.Location
import SexprCall.Proofs.Reader.Memory

/-! The cursors that come of one over a source. Whatever is done with them, their positions and the
places of their tokens are those that a rescan of the whole source gives. -/
namespace SexprCall

namespace Cursor

/-- A new cursor, and those after calls on families of clones or on readers, also after calls that
end with an error. -/
inductive Reached (src : Text) : Cursor → Prop where
  | new : Reached src (.ofText src)
  | family {family after : Family} {number : Nat} {request : Family.Request} {reply : Family.Reply}
      {cursor : Cursor} : (∀ cursor ∈ family.cursors, Reached src cursor) →
      family.ask number request = some (reply, after) → cursor ∈ after.cursors → Reached src cursor
  | reader {reader : Reader} {request : Reader.Request} : Reached src reader.cursor →
      Reached src (reader.ask request).2.cursor

variable {src : Text} {cursor : Cursor}

theorem StandsIn.next (stands : StandsIn src cursor) : StandsIn src cursor.next.2 :=
  @Reader.standsIn_ask src ⟨cursor, []⟩ stands .token

theorem StandsIn.take (stands : StandsIn src cursor) (count : Nat) :
    StandsIn src (cursor.take count).2 := by
  induction count generalizing cursor with
  | zero => exact stands
  | succ count ih =>
    cases found : cursor.next? with
    | none => simpa [Cursor.take, found] using stands
    | some pair => simpa [Cursor.take, found] using ih (stands.after found)

/-- A call moves one cursor of a family or adds a clone of it. -/
theorem standsIn_family {family after : Family} {number : Nat} {request : Family.Request}
    {reply : Family.Reply} (stand : ∀ cursor ∈ family.cursors, StandsIn src cursor)
    (asked : family.ask number request = some (reply, after)) :
    ∀ cursor ∈ after.cursors, StandsIn src cursor := by
  obtain ⟨asker, found, answer⟩ := Option.map_eq_some_iff.1 asked
  have stands : StandsIn src asker := stand asker (List.mem_of_getElem? found)
  have moved {last : Cursor} (lasts : StandsIn src last) :
      ∀ cursor ∈ (family.move number last).cursors, StandsIn src cursor := by
    intro cursor member
    rcases List.mem_or_eq_of_mem_set member with old | rfl
    · exact stand cursor old
    · exact lasts
  cases request with
  | next =>
    obtain ⟨-, rfl⟩ := Prod.mk.inj answer
    exact moved stands.next
  | clone =>
    obtain ⟨-, rfl⟩ := Prod.mk.inj answer
    intro cursor member
    rcases List.mem_append.1 member with old | new
    · exact stand cursor old
    · obtain rfl := List.mem_singleton.1 new
      exact stands
  | take count =>
    obtain ⟨-, rfl⟩ := Prod.mk.inj answer
    exact moved (stands.take count)
  | rest =>
    obtain ⟨-, rfl⟩ := Prod.mk.inj answer
    exact moved (stands.take _)

theorem Reached.standsIn (reached : Reached src cursor) : StandsIn src cursor := by
  induction reached with
  | new => exact ⟨0, .zero src, (past_zero src).symm⟩
  | family _ asked member stand => exact standsIn_family stand asked _ member
  | reader _ stands => exact Reader.standsIn_ask stands _

/-- However a cursor was reached, its position is that of a rescan, and so are both ends of the token
that it gives next, which goes from where the cursor stood to where it stands then. Rows and columns
alone mark out the text of the token, because places rise with the offsets. The tokens left cover what
is left of the source. -/
theorem Reached.rescan (reached : Reached src cursor) :
    let offset := cursor.position.offset
    StrictMonoOn src.place (Set.Iic src.length) ∧
    offset ≤ src.length ∧ cursor.rest = src.drop offset ∧
    cursor.position.place = src.place offset ∧
    (∀ token after, cursor.next = (token, after) → token.kind ≠ .endOfInput →
      token.span.start = offset ∧ token.span.stop = after.position.offset ∧
      token.span.first = src.place token.span.start ∧
      token.span.last = src.place (token.span.stop - 1) ∧
      token.span.first ≤ token.span.last ∧
      src.between token.span.first token.span.last = token.text src) ∧
    Tiles offset cursor.tokens src.length ∧ Tiles 0 (tokenize src) src.length := by
  obtain ⟨offset, boundary, rfl⟩ := reached.standsIn
  have stands : (past src offset).position.offset = offset := past_position_offset boundary.within
  simp only [stands]
  refine ⟨src.strictMonoOn_place, boundary.within, rfl, place_past src offset, ?_,
    tiles_past boundary.within, tiles_tokenize src⟩
  intro token after answered more
  have found : (past src offset).next? = some (token, after) := by
    rcases next : (past src offset).next? with _ | ⟨given, later⟩
    · rw [next_of_next?_none next] at answered
      obtain ⟨rfl, -⟩ := Prod.mk.inj answered
      exact absurd rfl more
    · rw [next_of_next? next] at answered
      rw [answered]
  obtain ⟨step, rfl⟩ := step_of_next? found
  have located := located_of_next? found
  refine ⟨step.start, (past_position_offset step.stop).symm, located.first, located.last,
    located.ordered, ?_⟩
  rw [located.between, Token.text, if_neg more]

/-- A clone of the cursor that a reader left behind with an error gives a literal across two lines. -/
theorem rescan_after_error :
    let src : Text := "x\n\"a\nb\"".toList
    let token : Token := ⟨.literal, ⟨2, 1, 3, 2, 2, 7⟩, 5⟩
    (∃ error, (Reader.ofText src).readAll.error? = some error) ∧ Reached src (past src 2) ∧
      (past src 2).next = (token, past src 7) ∧
      src.between (toLex (2, 1)) (toLex (3, 2)) = "\"a\nb\"".toList := by
  intro src token
  obtain ⟨-, error, reader⟩ := Reader.readAll_past 0 (Nat.zero_le src.length) []
  have left : (Reader.ofText src).readAll.reader = ⟨past src 1, []⟩ := reader
  have stopped : Reached src (past src 1) := by
    have reached : Reached src (Reader.ofText src).readAll.reader.cursor :=
      @Reached.reader src (.ofText src) .rest .new
    rwa [left] at reached
  have cloned : ∀ cursor ∈ [past src 1, past src 1], Reached src cursor := fun cursor member =>
    @Reached.family src ⟨[past src 1]⟩ ⟨[past src 1, past src 1]⟩ 0 .clone _ cursor
      (fun other member => List.mem_singleton.1 member ▸ stopped) rfl member
  have reached : Reached src (past src 2) :=
    @Reached.family src ⟨[past src 1, past src 1]⟩ ⟨[past src 1, past src 2]⟩ 1 .next _ _ cloned rfl
      (by simp)
  have answered : (past src 2).next = (token, past src 7) := rfl
  obtain ⟨-, -, -, -, tokens, -⟩ := reached.rescan
  obtain ⟨-, -, -, -, -, text⟩ := tokens token _ answered (by decide)
  exact ⟨⟨_, error⟩, reached, answered, text⟩

end Cursor
end SexprCall
