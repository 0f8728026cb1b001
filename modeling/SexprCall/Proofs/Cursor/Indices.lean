import Mathlib.Data.Set.Function
import Mathlib.Order.Interval.Set.Defs
import SexprCall.Cursor.Family
import SexprCall.Proofs.Cursor.Tiling

/-! Families of cursors as indices into one list of tokens. However many clones there are, and whichever
of them is asked, each cursor stands in front of a token of the source or behind them all, and what it
answers can be read off the list. -/
namespace SexprCall.Cursor

/-- The cursor that has passed the texts of so many tokens, or of all where there are fewer. -/
def inFront (src : Text) (index : Nat) : Cursor :=
  past src (((tokenize src).take index).flatMap (Token.text src)).length

variable {src : Text} {index : Nat}

theorem inFront_of_le (used : (tokenize src).length ≤ index) :
    inFront src index = inFront src (tokenize src).length := by
  rw [inFront, inFront, List.take_of_length_le used, List.take_length]

/-- What the cursor gives is the token with the index, and the cursor moves on by it. -/
theorem inFront_of_next? {token : Token} {after : Cursor}
    (left : (inFront src index).tokens = (tokenize src).drop index)
    (found : (inFront src index).next? = some (token, after)) :
    (tokenize src)[index]? = some token ∧ after = inFront src (index + 1) := by
  have next : (tokenize src)[index]? = some token := by
    rw [← List.head?_drop, ← left, tokens_of_next? found, List.head?_cons]
  obtain ⟨step, rfl⟩ := step_of_next? found
  refine ⟨next, ?_⟩
  rw [inFront, List.take_add_one, next, List.flatMap_append, List.length_append, ← step.length]
  simp

theorem tokens_inFront (src : Text) (index : Nat) :
    (inFront src index).tokens = (tokenize src).drop index := by
  induction index with
  | zero => rfl
  | succ index ih =>
    cases found : (inFront src index).next? with
    | none =>
      have used : (tokenize src).length ≤ index := by
        rw [← List.drop_eq_nil_iff, ← ih, tokens_of_next?_none found]
      have used' := Nat.le_succ_of_le used
      rw [inFront_of_le used', ← inFront_of_le used, tokens_of_next?_none found,
        List.drop_eq_nil_of_le used']
    | some pair =>
      obtain ⟨-, after⟩ := inFront_of_next? ih found
      rw [← after, ← List.tail_drop, ← ih, tokens_of_next? found, List.tail_cons]

theorem next?_inFront (src : Text) (index : Nat) :
    (inFront src index).next? =
      (tokenize src)[index]?.map fun token => (token, inFront src (index + 1)) := by
  have left := tokens_inFront src index
  cases found : (inFront src index).next? with
  | none =>
    rw [← List.head?_drop, ← left, tokens_of_next?_none found]
    rfl
  | some pair =>
    obtain ⟨next, after⟩ := inFront_of_next? left found
    rw [next, ← after]
    rfl

theorem next_inFront {token : Token} (next : (tokenize src)[index]? = some token) :
    (inFront src index).next = (token, inFront src (index + 1)) :=
  next_of_next? (by rw [next?_inFront, next]; rfl)

/-- Behind all tokens a cursor gives the end of the source and stays. -/
theorem next_inFront_used (used : (tokenize src)[index]? = none) :
    (inFront src index).next =
      (⟨.endOfInput, { start := src.length, stop := src.length }, 0⟩, inFront src index) := by
  have none : (inFront src index).next? = none := by rw [next?_inFront, used]; rfl
  have offset : (inFront src index).position.offset = src.length := by
    rw [inFront, past, Position.advance_offset, List.length_take,
      Nat.min_eq_right (past_next?_none none)]
    exact Nat.zero_add _
  rw [next_of_next?_none none, Token.atEnd, offset]

theorem take_inFront (src : Text) (count index : Nat) :
    (inFront src index).take count =
      (((tokenize src).drop index).take count,
        inFront src (min (index + count) (tokenize src).length)) := by
  induction count generalizing index with
  | zero =>
    rw [Cursor.take, Nat.add_zero, List.take_zero]
    rcases Nat.le_total index (tokenize src).length with inside | used
    · rw [Nat.min_eq_left inside]
    · rw [Nat.min_eq_right used, inFront_of_le used]
  | succ count ih =>
    rw [Cursor.take, next?_inFront]
    cases next : (tokenize src)[index]? with
    | none =>
      have used := List.getElem?_eq_none_iff.1 next
      rw [List.drop_eq_nil_of_le used, List.take_nil, Nat.min_eq_right (Nat.le_add_right_of_le used),
        ← inFront_of_le used]
      rfl
    | some token =>
      obtain ⟨inside, rfl⟩ := List.getElem?_eq_some_iff.1 next
      have further : index + 1 + count = index + (count + 1) := by omega
      rw [List.drop_eq_getElem_cons inside, List.take_succ_cons, ← further]
      simp only [Option.map_some, ih]

theorem drain_inFront (src : Text) (index : Nat) :
    (inFront src index).drain =
      ((tokenize src).drop index, inFront src (tokenize src).length) := by
  let enough := (inFront src index).rest.length + (tokenize src).length
  have count : (tokenize src).length ≤ enough := Nat.le_add_left _ _
  have all : (inFront src index).take enough = (inFront src index).drain :=
    take_of_le (Nat.le_add_right _ _)
  rw [← all, take_inFront, Nat.min_eq_right (Nat.le_add_left_of_le count), List.take_of_length_le]
  rw [List.length_drop]
  omega

/-- No two indices have the same cursor. -/
theorem inFront_injOn (src : Text) :
    Set.InjOn (inFront src) (Set.Iic (tokenize src).length) := by
  intro index inside other inside' same
  have left := congrArg (fun cursor => cursor.tokens.length) same
  simp only [tokens_inFront, List.length_drop] at left
  have inside : index ≤ (tokenize src).length := inside
  have inside' : other ≤ (tokenize src).length := inside'
  omega

namespace Family

/-- A request to one of several indices, answered from the tokens of the source. -/
def askIndices (src : Text) (indices : List Nat) (number : Nat) (request : Request) :
    Option (Reply × List Nat) :=
  let tokens := tokenize src
  indices[number]?.map fun index =>
    match request with
    | .next =>
      match tokens[index]? with
      | some token => (.token token, indices.set number (index + 1))
      | none =>
        (.token ⟨.endOfInput, { start := src.length, stop := src.length }, 0⟩, indices)
    | .clone => (.cloned indices.length, indices ++ [index])
    | .take count =>
      (.tokens ((tokens.drop index).take count),
        indices.set number (min (index + count) tokens.length))
    | .rest => (.tokens (tokens.drop index), indices.set number tokens.length)

/-- The cursors in front of the tokens with these indices. -/
def ofIndices (src : Text) (indices : List Nat) : Family := ⟨indices.map (inFront src)⟩

theorem ofIndices_cursors (src : Text) (indices : List Nat) (number : Nat) :
    (ofIndices src indices).cursors[number]? = indices[number]?.map (inFront src) :=
  List.getElem?_map

theorem ofIndices_length (src : Text) (indices : List Nat) :
    (ofIndices src indices).cursors.length = indices.length :=
  List.length_map _

theorem ofIndices_move (src : Text) (indices : List Nat) (number index : Nat) :
    (ofIndices src indices).move number (inFront src index) =
      ofIndices src (indices.set number index) :=
  congrArg Family.mk List.map_set.symm

theorem ofIndices_append (src : Text) (indices : List Nat) (index : Nat) :
    ⟨(ofIndices src indices).cursors ++ [inFront src index]⟩ = ofIndices src (indices ++ [index]) := by
  simp [ofIndices]

/-- To set an entry to what it is changes nothing. -/
theorem set_of_getElem? {indices : List Nat} {number index : Nat}
    (found : indices[number]? = some index) : indices.set number index = indices := by
  obtain ⟨inside, rfl⟩ := List.getElem?_eq_some_iff.1 found
  exact List.set_getElem_self inside

theorem ask_ofIndices (src : Text) (indices : List Nat) (number : Nat) (request : Request) :
    (ofIndices src indices).ask number request =
      (askIndices src indices number request).map (Prod.map id (ofIndices src)) := by
  simp only [ask, askIndices, ofIndices_cursors, ofIndices_length, Option.map_map]
  cases found : indices[number]? with
  | none => rfl
  | some index =>
    apply congrArg some
    cases request with
    | next =>
      cases next : (tokenize src)[index]? with
      | some token => simp [next_inFront next, next, ofIndices_move]
      | none => simp [next_inFront_used next, next, ofIndices_move, set_of_getElem? found]
    | clone => simp [ofIndices_append]
    | take count => simp [take_inFront, ofIndices_move]
    | rest => simp [drain_inFront, ofIndices_move]

variable {src : Text} {indices later : List Nat} {number : Nat} {request : Request} {reply : Reply}

/-- A request moves the index that it goes to, or for a clone it adds one. The new index is an old one or
within the tokens. -/
theorem exists_of_askIndices (asked : askIndices src indices number request = some (reply, later)) :
    ∃ index, (index ∈ indices ∨ index ≤ (tokenize src).length) ∧
      (request ≠ .clone ∧ later = indices.set number index ∨
        request = .clone ∧ later = indices ++ [index]) := by
  obtain ⟨index, found, answer⟩ := Option.map_eq_some_iff.1 asked
  have member : index ∈ indices := List.mem_of_getElem? found
  cases request with
  | next =>
    cases next : (tokenize src)[index]? with
    | some token =>
      obtain ⟨inside, -⟩ := List.getElem?_eq_some_iff.1 next
      simp only [next] at answer
      obtain ⟨-, rfl⟩ := Prod.mk.inj answer
      exact ⟨index + 1, .inr inside, .inl ⟨nofun, rfl⟩⟩
    | none =>
      simp only [next] at answer
      obtain ⟨-, rfl⟩ := Prod.mk.inj answer
      exact ⟨index, .inl member, .inl ⟨nofun, (set_of_getElem? found).symm⟩⟩
  | clone =>
    obtain ⟨-, rfl⟩ := Prod.mk.inj answer
    exact ⟨index, .inl member, .inr ⟨rfl, rfl⟩⟩
  | take count =>
    obtain ⟨-, rfl⟩ := Prod.mk.inj answer
    exact ⟨_, .inr (Nat.min_le_right _ _), .inl ⟨nofun, rfl⟩⟩
  | rest =>
    obtain ⟨-, rfl⟩ := Prod.mk.inj answer
    exact ⟨_, .inr (Nat.le_refl _), .inl ⟨nofun, rfl⟩⟩

theorem bounded_of_askIndices (asked : askIndices src indices number request = some (reply, later))
    (bounded : ∀ index ∈ indices, index ≤ (tokenize src).length) :
    ∀ index ∈ later, index ≤ (tokenize src).length := by
  obtain ⟨new, within, moved⟩ := exists_of_askIndices asked
  have bound : new ≤ (tokenize src).length := within.elim (bounded new) id
  rcases moved with ⟨-, rfl⟩ | ⟨-, rfl⟩
  · intro index member
    rcases List.mem_or_eq_of_mem_set member with old | rfl
    · exact bounded index old
    · exact bound
  · exact List.forall_mem_append.2 ⟨bounded, List.forall_mem_singleton.2 bound⟩

/-- No other index changes, and for a clone not even that of the cursor that is cloned. -/
theorem frame_of_askIndices (asked : askIndices src indices number request = some (reply, later))
    {other : Nat} (old : other < indices.length) (apart : other ≠ number ∨ request = .clone) :
    later[other]? = indices[other]? := by
  obtain ⟨new, -, ⟨moves, rfl⟩ | ⟨-, rfl⟩⟩ := exists_of_askIndices asked
  · have apart : other ≠ number := apart.resolve_right moves
    exact List.getElem?_set_ne apart.symm
  · exact List.getElem?_append_left old

def session {State : Type} (ask : State → Nat → Request → Option (Reply × State)) (state : State) :
    List (Nat × Request) → Option (List Reply × State)
  | [] => some ([], state)
  | (number, request) :: steps =>
    (ask state number request).bind fun answer =>
      (session ask answer.2 steps).map fun later => (answer.1 :: later.1, later.2)

theorem exists_of_map_eq {Given State Other : Type} {f : State → Other}
    {result : Option (Given × State)} {given : Given} {after : Other}
    (same : result.map (Prod.map id f) = some (given, after)) :
    ∃ state, result = some (given, state) ∧ after = f state := by
  obtain ⟨⟨_, state⟩, found, pair⟩ := Option.map_eq_some_iff.1 same
  obtain ⟨rfl, rfl⟩ := Prod.mk.inj pair
  exact ⟨state, found, rfl⟩

/-- Where the answers agree, so do sessions. -/
theorem session_map {State Other : Type} {f : State → Other}
    {ask : State → Nat → Request → Option (Reply × State)}
    {askOther : Other → Nat → Request → Option (Reply × Other)}
    (agree : ∀ state number request,
      askOther (f state) number request = (ask state number request).map (Prod.map id f))
    (state : State) (steps : List (Nat × Request)) :
    session askOther (f state) steps = (session ask state steps).map (Prod.map id f) := by
  induction steps generalizing state with
  | nil => rfl
  | cons step steps ih =>
    rw [session, session, agree]
    cases ask state step.1 step.2 with
    | none => rfl
    | some answer =>
      simp only [Option.map_some, Option.bind_some, Prod.map, ih, Option.map_map]
      rfl

theorem bounded_of_session {steps : List (Nat × Request)} {replies : List Reply}
    (ended : session (askIndices src) indices steps = some (replies, later))
    (bounded : ∀ index ∈ indices, index ≤ (tokenize src).length) :
    ∀ index ∈ later, index ≤ (tokenize src).length := by
  induction steps generalizing indices replies with
  | nil =>
    obtain ⟨-, rfl⟩ := Prod.mk.inj (Option.some.inj ended)
    exact bounded
  | cons step steps ih =>
    obtain ⟨answer, asked, more⟩ := Option.bind_eq_some_iff.1 ended
    obtain ⟨rest, went, same⟩ := Option.map_eq_some_iff.1 more
    obtain ⟨-, rfl⟩ := Prod.mk.inj same
    exact ih went (bounded_of_askIndices asked bounded)

/-- Sessions with a cursor and its clones are sessions with indices into the tokens of the source, zero
at first. The indices stay within the tokens, and no two of them have the same cursor. After any session,
a request to one cursor leaves the indices of the others as they are and so the others themselves; a
request for a clone leaves all cursors as they are. -/
theorem session_indices (src : Text) (steps : List (Nat × Request)) :
    let count := (tokenize src).length
    session ask (ofText src) steps =
      (session (askIndices src) [0] steps).map (Prod.map id (ofIndices src)) ∧
    Set.InjOn (inFront src) (Set.Iic count) ∧
    ∀ replies family, session ask (ofText src) steps = some (replies, family) →
      ∃ indices, session (askIndices src) [0] steps = some (replies, indices) ∧
        family = ofIndices src indices ∧ (∀ index ∈ indices, index ≤ count) ∧
        ∀ number request reply after, family.ask number request = some (reply, after) →
          ∃ later, askIndices src indices number request = some (reply, later) ∧
            after = ofIndices src later ∧
            ∀ other < indices.length, other ≠ number ∨ request = .clone →
              later[other]? = indices[other]? ∧ after.cursors[other]? = family.cursors[other]? := by
  intro count
  have same : session ask (ofText src) steps =
      (session (askIndices src) [0] steps).map (Prod.map id (ofIndices src)) :=
    session_map (ask_ofIndices src) [0] steps
  refine ⟨same, inFront_injOn src, ?_⟩
  intro replies family ended
  obtain ⟨indices, ran, rfl⟩ := exists_of_map_eq (same.symm.trans ended)
  have first : ∀ index ∈ [0], index ≤ count := by simp
  refine ⟨indices, ran, rfl, bounded_of_session ran first, ?_⟩
  intro number request reply after asked
  rw [ask_ofIndices] at asked
  obtain ⟨later, moved, rfl⟩ := exists_of_map_eq asked
  refine ⟨later, moved, rfl, fun other old apart => ?_⟩
  have frame := frame_of_askIndices moved old apart
  rw [ofIndices_cursors, ofIndices_cursors, frame]
  exact ⟨rfl, rfl⟩

end Family
end SexprCall.Cursor
