import SexprCall.Proofs.Cursor.Placement
import SexprCall.Proofs.Position.Count
import SexprCall.Proofs.Grammar.Correspondence
import SexprCall.Proofs.Render.Success

/-! Sources one after another. A source that is read ends with a closing parenthesis, spacing or a
comment. Spacing may run on into the next source, but it means nothing; so both are read as if each
stood alone, unless the comment goes on. -/
namespace SexprCall

open Lexeme Grammar ReadError

/-! Spacing in front of a text moves its tokens and adds none that mean something. -/

theorem significant_place_dropWhile (position : Position) (text : Text) :
    significant (place position (ofText text)) =
      significant (place (position.advance (text.takeWhile isSpacing))
        (ofText (text.dropWhile isSpacing))) := by
  cases text with
  | nil => rfl
  | cons c text =>
    by_cases spacing : isSpacing c = true
    · rw [ofText, scan_of_spacing spacing, List.takeWhile_cons_of_pos spacing,
        List.dropWhile_cons_of_pos spacing]
      exact significant_cons_of_trivia rfl _
    · rw [List.takeWhile_cons_of_neg spacing, List.dropWhile_cons_of_neg spacing,
        Position.advance_nil]

theorem significant_place_spacing {space : Text} (blank : ∀ c ∈ space, isSpacing c = true)
    (position : Position) (text : Text) :
    significant (place position (ofText (space ++ text))) =
      significant (place (position.advance space) (ofText text)) := by
  rw [significant_place_dropWhile, significant_place_dropWhile (position.advance space),
    List.takeWhile_append_of_pos blank, List.dropWhile_append_of_pos blank,
    Position.advance_append]

theorem Lexeme.Fits.isSpacing_of_whitespace {lexeme : Lexeme} {after : Text}
    (fits : Fits lexeme after) (kind : lexeme.kind = .whitespace) :
    ∀ c ∈ lexeme.text, isSpacing c = true := by
  cases fits with
  | spacing inside => exact inside
  | single single =>
    obtain rfl : _ = TokenKind.whitespace := kind
    exact absurd (by decide) (single?_not_mem_growingKinds single)
  | @word first body =>
    rcases classify_eq (first :: body) with word | word <;> simp [word] at kind
  | comment | closed | unclosed => simp at kind

/-- A comment ends where a line does. -/
theorem Lexeme.Fits.of_comment {lexeme : Lexeme} (fits : Fits lexeme [])
    (kind : lexeme.kind = .lineComment) {after : Text}
    (line : after = [] ∨ after.head? = some '\n') : Fits lexeme after := by
  have bounded : BoundedBy (· = '\n') after := by
    rcases line with rfl | feed
    · exact boundedBy_nil _
    · intro c first
      exact (Option.some.inj (feed.symm.trans first)).symm
  cases fits with
  | comment inside => exact .comment inside bounded
  | single single =>
    obtain rfl : _ = TokenKind.lineComment := kind
    exact absurd (by decide) (single?_not_mem_growingKinds single)
  | @word first body =>
    rcases classify_eq (first :: body) with word | word <;> simp [word] at kind
  | spacing | closed | unclosed => simp at kind

/-- The tokens that mean something are those of the parts, unless the last lexeme of the first part
goes on and is not spacing. -/
theorem significant_tokenize_append {a b : Text}
    (seam : ∀ last ∈ (ofText a).getLast?, last.kind = .whitespace ∨ Fits last b) :
    significant (tokenize (a ++ b)) = significant (tokenize a) ++
      (significant (tokenize b)).map (Token.shift (Position.start.advance a)) := by
  rw [← significant_map_shift]
  by_cases fits : ∀ last ∈ (ofText a).getLast?, Fits last b
  · rw [tokenize_append (chain_of_last fits), significant_append]
  obtain ⟨last, back, unfit⟩ : ∃ last ∈ (ofText a).getLast?, ¬ Fits last b := by simpa using fits
  obtain ⟨before, split, whole, ends⟩ := exists_of_getLast? back
  have spacing : last.kind = .whitespace := (seam last back).resolve_right unfit
  have chain : Chain before (last.text ++ b) := chain_of_ofText_eq split (by simp [ends.head?_append])
  have lexemes : ofText (a ++ b) = before ++ ofText (last.text ++ b) := by
    rw [whole, List.append_assoc, chain.ofText_append]
  have trivia (position : Position) : significant (place position [last]) = [] :=
    significant_cons_of_trivia (by simp [Token.ofText, spacing, TokenKind.isTrivia]) []
  rw [tokenize_eq_place, lexemes, place_append, significant_append,
    significant_place_spacing (ends.isSpacing_of_whitespace spacing), ← Position.advance_append,
    ← whole, place_advance_start, tokenize_eq_place, tokenize_eq_place, split, place_append,
    significant_append, trivia, List.append_nil]

theorem endToken_append (a b : Text) :
    endToken (a ++ b) = (endToken b).shift (Position.start.advance a) := by
  have row : 1 ≤ Position.start.row := Nat.le_refl 1
  have col : 1 ≤ Position.start.col := Nat.le_refl 1
  rw [endToken, endToken, Token.shift_atEnd, Position.advance_append,
    Position.shift_advance _ b row,
    Position.shift_start (Position.advance_row a row) (Position.advance_col a col)]

/-- The last lexeme of a source that is read is spacing, or it fits what follows. -/
theorem seam_of_parse {a b : Text} {nodes : List Node} (read : parse a = .ok nodes)
    (apart : (∀ token ∈ (tokenize a).getLast?, token.kind ≠ .lineComment) ∨ b = [] ∨
      b.head? = some '\n') :
    ∀ last ∈ (ofText a).getLast?, last.kind = .whitespace ∨ Fits last b := by
  intro last back
  obtain ⟨-, -, -, ends⟩ := exists_of_getLast? back
  rw [← Cursor.map_tokenize, List.getLast?_map] at back
  obtain ⟨token, lastToken, rfl⟩ := Option.map_eq_some_iff.1 back
  by_cases comment : token.kind = .lineComment
  · rcases apart with other | rest
    · exact absurd comment (other token lastToken)
    · exact .inr (ends.of_comment comment rest)
  by_cases spacing : token.kind = .whitespace
  · exact .inl spacing
  -- What means something last is the closing parenthesis of the last node.
  have means : token.kind.isTrivia = false := by
    revert comment spacing
    generalize token.kind = kind
    cases kind <;> simp [TokenKind.isTrivia]
  obtain ⟨derived, shape⟩ := derives_of_parse read
  have lastMeaning : (significant (tokenize a)).getLast? = some token := by
    obtain ⟨before, split⟩ := List.getLast?_eq_some_iff.1 lastToken
    rw [split, significant_append, significant_cons means, significant_nil, List.getLast?_concat]
  have closes := derived.kind_last (fun node member => (shape node member).1) token lastMeaning
  exact .inr (ends.of_kind (by simp [Lexeme.ofToken, closes, growingKinds]) b)

/-- Behind a source that is read, another one is read as it stands alone, only moved. -/
theorem parse_append_eq {a b : Text} {nodes : List Node} (read : parse a = .ok nodes)
    (seam : ∀ last ∈ (ofText a).getLast?, last.kind = .whitespace ∨ Fits last b) :
    parse (a ++ b) =
      (shiftOutcome (Position.start.advance a) (List.map (Node.shift (Position.start.advance a)))
        (parse b)).map (nodes ++ ·) := by
  obtain ⟨ended, rfl⟩ := parse_eq_ok_iff_feed.1 read
  have moved := feed_shift (Position.start.advance a) [] (significant (tokenize b))
  rw [List.map_nil] at moved
  rw [parse_eq_feed_significant, parse_eq_feed_significant b, significant_tokenize_append seam,
    feed_append_of_ok ended, moved, endToken_append]
  rcases feed [] (significant (tokenize b)) with ⟨others, error | (_ | ⟨form, outer⟩), rest⟩ <;> rfl

/-- Both parts keep their texts, so they render to what they render to alone. -/
theorem render_append_of_parse {a b : Text} {nodes others : List Node} (read : parse a = .ok nodes)
    (read' : parse b = .ok others)
    (both : parse (a ++ b) =
      .ok (nodes ++ others.map (Node.shift (Position.start.advance a)))) :
    ∃ left right, render a = .ok left ∧ render b = .ok right ∧
      render (a ++ b) = .ok (left ++ right) := by
  obtain ⟨texts, rendered, left⟩ := render_of_parse read
  obtain ⟨texts', rendered', right⟩ := render_of_parse read'
  obtain ⟨all, renderedAll, whole⟩ := render_of_parse both
  obtain ⟨derived, -⟩ := derives_of_parse read
  obtain ⟨derived', -⟩ := derives_of_parse read'
  have first : Node.renderAll (a ++ b) nodes = Node.renderAll a nodes := by
    refine Node.renderAll_eq_of_outline (derived.outline_eq derived ?_)
    have same := map_ofToken_shift_within [] b (significant_subset (tokenize a))
    simpa [Function.comp_def, Token.shift_by_start] using same
  have second : Node.renderAll (a ++ b) (others.map (Node.shift (Position.start.advance a))) =
      Node.renderAll b others := by
    refine Node.renderAll_eq_of_outline (derived'.outline_eq (derived'.shift _) ?_)
    have same := map_ofToken_shift_within a [] (significant_subset (tokenize b))
    rwa [List.append_nil] at same
  rw [Node.renderAll_append (first.trans rendered) (second.trans rendered')] at renderedAll
  obtain rfl : texts ++ texts' = all := Except.ok.inj renderedAll
  exact ⟨_, _, left, right, by rw [whole, List.flatten_append]⟩

/-- A source that is read, and one after it that does not go on with a comment of the first: together
they give the nodes of both, those of the second moved behind the first, and the texts of both. An error
of the second is that of both together, with its token moved. -/
theorem parse_append {a b : Text} {nodes : List Node} (read : parse a = .ok nodes)
    (apart : (∀ token ∈ (tokenize a).getLast?, token.kind ≠ .lineComment) ∨ b = [] ∨
      b.head? = some '\n') :
    let origin : Position := ⟨a.length, a.count '\n' + 1, a.lastLine.length + 1⟩
    (∀ others, parse b = .ok others →
      parse (a ++ b) = .ok (nodes ++ others.map (Node.shift origin)) ∧
      ∃ left right, render a = .ok left ∧ render b = .ok right ∧
        render (a ++ b) = .ok (left ++ right)) ∧
    ∀ error, parse b = .error error →
      parse (a ++ b) = .error (error.shift origin) ∧
      render (a ++ b) = .error (.reading (error.shift origin)) := by
  intro origin
  have place : Position.start.advance a = origin := Position.start_advance a
  have both := parse_append_eq read (seam_of_parse read apart)
  constructor
  · intro others read'
    rw [read'] at both
    refine ⟨?_, render_append_of_parse read read' both⟩
    rw [both, place]
    rfl
  · intro error failed
    rw [failed, place] at both
    exact ⟨both, render_of_parse_error both⟩

/-- The spacing of both parts runs together, and the second begins in the middle of a row. -/
theorem parse_append_across_lines :
    let a := "(f)\n ".toList
    let b := " (g)".toList
    let c := "(h".toList
    ∃ nodes others, parse a = .ok nodes ∧ parse b = .ok others ∧
      parse (a ++ b) = .ok (nodes ++ others.map (Node.shift ⟨5, 2, 2⟩)) ∧
      parse (a ++ c) = .error (.unexpected formKinds ⟨.endOfInput, ⟨0, 0, 0, 0, 7, 7⟩, 0⟩) := by
  intro a b c
  have read : ∃ nodes, parse a = .ok nodes := ⟨_, by rw [parse_eq_feed]; rfl⟩
  have read' : ∃ others, parse b = .ok others := ⟨_, by rw [parse_eq_feed]; rfl⟩
  have failed : parse c =
      .error (.unexpected formKinds ⟨.endOfInput, ⟨0, 0, 0, 0, 2, 2⟩, 0⟩) := by
    rw [parse_eq_feed]
    rfl
  obtain ⟨nodes, read⟩ := read
  obtain ⟨others, read'⟩ := read'
  have apart : ∀ token ∈ (tokenize a).getLast?, token.kind ≠ .lineComment := by decide
  exact ⟨nodes, others, read, read', ((parse_append read (.inl apart)).1 others read').1,
    ((parse_append read (.inl apart)).2 _ failed).1⟩

end SexprCall
