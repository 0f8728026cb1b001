import SexprCall.Proofs.Cursor.Placement
import SexprCall.Proofs.Grammar.Correspondence
import SexprCall.Proofs.Grammar.Subtree
import SexprCall.Proofs.Reader.Returned
import SexprCall.Proofs.Render.Success

/-! Forms on their own. The text that a form covers has the tokens of the form, moved to the start, so it
is read as that form again, and rendered alike. -/
namespace SexprCall

open Grammar

/-- The text between two parentheses of a form, both included, has the tokens of the form. -/
theorem exists_excerpt {src : Text} {used before middle after outside beyond : List Token}
    {inner : Node} (whole : tokenize src = outside ++ (used ++ beyond))
    (split : significant used = before ++ (middle ++ after)) (derived : Derives [inner] middle)
    (parenthesized : inner.isParenthesized = true) :
    ∃ left part right, src = left ++ (part ++ right) ∧
      Position.start.advance left = inner.span.startPosition ∧
      inner.span.stop = left.length + part.length ∧
      middle = (significant (tokenize part)).map (Token.shift (Position.start.advance left)) := by
  obtain ⟨opening, inside, closing, rfl, -, closes, span⟩ := derived.exists_parentheses parenthesized
  obtain ⟨before', inside', after', rfl, same⟩ := exists_of_significant_eq split
  have row : tokenize src = (outside ++ before') ++
      (opening :: (inside' ++ [closing]) ++ (after' ++ beyond)) := by
    rw [whole]
    simp only [List.append_assoc]
  obtain ⟨left, part, right, source, start, stop, tokens⟩ :=
    exists_tokenize_part row (by simp [closes, Lexeme.growingKinds])
  refine ⟨left, part, right, source, ?_, ?_, ?_⟩
  · rw [start, span]
    rfl
  · rw [span, Span.union_stop, stop]
  · rw [← significant_map_shift, ← tokens, same]

theorem Node.span_shift {origin : Position} {node : Node} (parenthesized : node.isParenthesized = true) :
    (node.shift origin).span = node.span.shift origin := by
  cases node with
  | form | emptyList => rfl
  | atom | endOfInput | foreign => cases parenthesized

/-- Moved tokens of a text that derive a node are, in the text alone, tokens of that node before the
move. -/
theorem exists_parse_part {src left part right : Text} (source : src = left ++ (part ++ right))
    {inner : Node} (parenthesized : inner.isParenthesized = true) (shallow : inner.depth ≤ maxDepth)
    (derived : Derives [inner]
      ((significant (tokenize part)).map (Token.shift (Position.start.advance left)))) :
    ∃ alone, parse part = .ok [alone] ∧ alone.shift (Position.start.advance left) = inner ∧
      alone.outline part = inner.outline src := by
  have texts := map_ofToken_shift_within left right (significant_subset (tokenize part))
  rw [← source] at texts
  obtain ⟨alike, derivedPart, outlines⟩ := derived.exists_alike texts.symm
  obtain ⟨alone, none, rfl, outline, rest⟩ := List.map_eq_cons_iff.1 outlines
  obtain rfl : none = [] := List.map_eq_nil_iff.1 rest
  have moved : alone.shift (Position.start.advance left) = inner :=
    List.head_eq_of_cons_eq ((derivedPart.shift (Position.start.advance left)).unique derived)
  rw [← moved, Node.isParenthesized_shift] at parenthesized
  rw [← moved, Node.depth_shift] at shallow
  have read : parse part = .ok [alone] :=
    parse_of_derives derivedPart (by simp [parenthesized, shallow])
  exact ⟨alone, read, moved, outline⟩

/-- Take a form or an empty list, at any depth in a node that a reader returned after any calls. The
text it covers is read as one node, which is the form moved back to the start, and renders to what the
form renders to over the whole source. -/
theorem parse_excerpt {src : Text} {node inner : Node} {path : List Node.Step}
    (gives : Reader.Gives src node) (within : node.at? path = some inner)
    (parenthesized : inner.isParenthesized = true) :
    let excerpt := src.slice inner.span.start inner.span.stop
    ∃ alone, parse excerpt = .ok [alone] ∧ alone.span.startPosition = .start ∧
      (∀ other : Node, other.shift inner.span.startPosition = inner ↔ other = alone) ∧
      ∃ text, render excerpt = .ok text ∧ inner.render src [] = .ok text := by
  intro excerpt
  have more : node ≠ .endOfInput := by
    rintro rfl
    obtain rfl : inner = .endOfInput := Node.eq_of_at? (fun step => by cases step <;> rfl) within
    cases parenthesized
  obtain ⟨outside, used, beyond, nodes, whole, derived, member, shallow⟩ := gives.exists_derives more
  obtain ⟨before, middle, after, split, derivedInner⟩ := derived.exists_of_at? member within
  obtain ⟨left, part, right, source, start, stop, rfl⟩ :=
    exists_excerpt whole split derivedInner parenthesized
  have covered : excerpt = part := by
    have offset : inner.span.start = left.length := by
      have same := congrArg Position.offset start
      simpa [Position.start, Span.startPosition] using same.symm
    simp only [excerpt, offset, stop, source]
    exact Text.slice_length left part right
  have depth : inner.depth ≤ maxDepth := Nat.le_trans (Node.depth_le_of_at? within) shallow
  obtain ⟨alone, read, moved, outline⟩ := exists_parse_part source parenthesized depth derivedInner
  rw [start] at moved
  rw [covered]
  refine ⟨alone, read, ?_, ?_, ?_⟩
  · rw [← moved, Node.isParenthesized_shift] at parenthesized
    apply @Position.shift_inj inner.span.startPosition
    rw [← Span.shift_startPosition, ← Node.span_shift parenthesized, moved, ← start,
      Position.shift_start]
    · exact Position.advance_row left (Nat.le_refl 1)
    · exact Position.advance_col left (Nat.le_refl 1)
  · intro other
    constructor
    · intro same
      exact Node.shift_inj (same.trans moved.symm)
    · rintro rfl
      exact moved
  · obtain ⟨text, rendered, one⟩ := render_of_parse_single read
    exact ⟨text, rendered, by rw [← Node.render_eq_of_outline outline, one]⟩

/-- A form inside another one that is read after an error, with a comment and a literal that hold closing
parentheses. -/
theorem parse_excerpt_after_error :
    let src := ")(f\n (a ;)\n \")\"))".toList
    let first : Token := ⟨.identifier, ⟨1, 3, 1, 3, 2, 3⟩, 1⟩
    let word : Token := ⟨.identifier, ⟨2, 3, 2, 3, 6, 7⟩, 1⟩
    let quoted : Token := ⟨.literal, ⟨3, 2, 3, 4, 12, 15⟩, 3⟩
    let inner := .form (.atom .symbol word word.span) [.atom .literal quoted quoted.span]
      ⟨2, 2, 3, 5, 5, 16⟩
    Reader.Gives src (.form (.atom .symbol first first.span) [inner] ⟨1, 2, 3, 6, 1, 17⟩) ∧
      ∃ alone, parse "(a ;)\n \")\")".toList = .ok [alone] ∧ alone.shift ⟨5, 2, 2⟩ = inner ∧
        ∃ text, render "(a ;)\n \")\")".toList = .ok text ∧ inner.render src [] = .ok text := by
  intro src first word quoted inner
  let node : Node := .form (.atom .symbol first first.span) [inner] ⟨1, 2, 3, 6, 1, 17⟩
  have stopped : (Reader.ofText src).readAll.reader = ⟨.past src 1, []⟩ :=
    (Reader.readAll_past 0 (Nat.zero_le src.length) []).2.2
  have read : (Reader.readAll ⟨.past src 1, []⟩).nodes = [node] :=
    (@Reader.readAll_past src 1 (by decide) []).1
  have gives : Reader.Gives src node := by
    refine ⟨[.rest, .rest], _, List.mem_cons_of_mem _ List.mem_cons_self, ?_⟩
    simp [stopped, read, Reader.Reply.given]
  obtain ⟨alone, parsed, -, only, rendered⟩ :=
    @parse_excerpt src node inner [.tail 0] gives rfl rfl
  exact ⟨gives, alone, parsed, (only alone).2 rfl, rendered⟩

end SexprCall
