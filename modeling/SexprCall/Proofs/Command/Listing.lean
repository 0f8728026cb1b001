import SexprCall.Proofs.Command.Course
import SexprCall.Proofs.Node.Leaves
import SexprCall.Proofs.Text.Encoding
import SexprCall.Proofs.Text.LineBreaks
import SexprCall.Proofs.Text.Unquoting

/-! The listing of the tokens of a source. It has one line for each token, and the source can be had back
from these lines: the first quotation mark on a line begins the text of the token. -/
namespace SexprCall

open Text

namespace Text

def isMark (c : Char) : Bool := c == apostrophe || c == quoteMark

/-- The line from its first quotation mark on. -/
def quotedPart (line : Text) : Text := line.dropWhile (!isMark ·)

theorem isMark_enclosing (text : Text) : isMark (enclosing text) = true := by
  rcases enclosing_cases text with mark | mark <;> rw [mark] <;> decide

theorem markless_of_all {text : Text} (markless : text.all (!isMark ·) = true) :
    ∀ c ∈ text, isMark c = false := by
  simpa using markless

theorem quotedPart_append {front : Text} (markless : ∀ c ∈ front, isMark c = false) (text : Text) :
    quotedPart (front ++ quoted text) = quoted text := by
  rw [quotedPart, List.dropWhile_append_of_pos fun c member => by rw [markless c member]; rfl, quoted]
  exact List.dropWhile_cons_of_neg (by rw [isMark_enclosing]; decide)

theorem not_isMark_twoDigits (n : Nat) : ∀ c ∈ twoDigits n, isMark c = false := by
  intro c member
  rcases List.mem_append.1 member with zero | digit
  · obtain rfl : c = '0' := List.eq_of_mem_replicate zero
    decide
  · have shown := Nat.isDigit_of_mem_toDigits (by decide) (by decide) digit
    cases marked : isMark c with
    | false => rfl
    | true =>
      rw [isMark, Bool.or_eq_true, beq_iff_eq, beq_iff_eq] at marked
      rcases marked with rfl | rfl <;> revert shown <;> decide

end Text

theorem Span.not_isMark_corners (span : Span) : ∀ c ∈ span.corners, isMark c = false := by
  have number := not_isMark_twoDigits
  have comma : ∀ c ∈ ", ".toList, isMark c = false := markless_of_all (by decide)
  have arrow : ∀ c ∈ " => ".toList, isMark c = false := markless_of_all (by decide)
  have colon : ∀ c ∈ ": ".toList, isMark c = false := markless_of_all (by decide)
  simp only [corners, List.forall_mem_append]
  exact ⟨⟨⟨⟨⟨⟨⟨number _, comma⟩, number _⟩, arrow⟩, number _⟩, comma⟩, number _⟩, colon⟩

/-- Place and kind of a token are told without quotation marks. -/
theorem Token.quotedPart_describe (src : Text) (token : Token) :
    quotedPart (token.describe src) = quoted (token.text src) := by
  have name : ∀ c ∈ token.kind.name, isMark c = false := by
    cases token.kind <;> exact markless_of_all (by decide)
  have front : ∀ c ∈ token.span.corners ++ token.kind.name ++ [' '], isMark c = false := by
    simp only [List.forall_mem_append]
    exact ⟨⟨token.span.not_isMark_corners, name⟩, markless_of_all (by decide)⟩
  have whole : token.describe src =
      token.span.corners ++ token.kind.name ++ [' '] ++ quoted (token.text src) := by
    rw [describe, List.append_assoc _ [' ']]
    rfl
  rw [whole, quotedPart_append front]

/-- The tokens of a source in their order make it up. -/
theorem flatMap_text_tokenize (src : Text) : (tokenize src).flatMap (Token.text src) = src := by
  have whole := Lexeme.flatMap_ofText src
  rw [← Cursor.map_tokenize, List.flatMap_map] at whole
  exact whole

namespace Command

def listing (src : Text) : Text := (tokenize src).flatMap fun token => line (token.describe src)

theorem splitLines_listing (src : Text) :
    splitLines (listing src) = (tokenize src).map (Token.describe src) := by
  have lines : listing src = ((tokenize src).map (Token.describe src)).flatMap (· ++ ['\n']) :=
    (List.flatMap_map _ _ _).symm
  rw [lines, splitLines_flatMap]
  intro line member
  obtain ⟨token, -, rfl⟩ := List.mem_map.1 member
  exact (token.printable_describe src).unbroken

/-- The source of which these are the lines. -/
def sourceOf (lines : List Text) : Text := lines.flatMap fun line => unquote (quotedPart line)

theorem sourceOf_describe (src : Text) :
    sourceOf ((tokenize src).map (Token.describe src)) = src := by
  rw [sourceOf, List.flatMap_map]
  simp only [Token.quotedPart_describe, unquote_quoted]
  exact flatMap_text_tokenize src

/-- A run that lists the tokens of a source prints this listing. The line of a token has no line break of any
kind, so there is one line for each token. What is quoted on it is the text of the token, and these texts
make up the source, so that sources with the same listing are the same. -/
theorem listing_lossless (src : Text) :
    (∀ verbose system input, Reads system input (.ofText input) (.ok src) →
      ((listTokens verbose input).run system).1.output = listing src) ∧
      (∀ token ∈ tokenize src, ∀ c ∈ token.describe src, c ∉ lineBreaks) ∧
      splitLines (listing src) = (tokenize src).map (Token.describe src) ∧
      (∀ token ∈ tokenize src, unquote (quotedPart (token.describe src)) = token.text src) ∧
      sourceOf (splitLines (listing src)) = src ∧
      ∀ other, listing other = listing src → other = src := by
  have back (src : Text) : sourceOf (splitLines (listing src)) = src := by
    rw [splitLines_listing, sourceOf_describe]
  refine ⟨?_, fun token _ => (token.printable_describe src).unbroken, splitLines_listing src, ?_,
    back src, ?_⟩
  · intro verbose system input reads
    rw [run_listTokens reads]
    rfl
  · intro token _
    rw [token.quotedPart_describe, unquote_quoted]
  · intro other same
    rw [← back other, same, back]

/-- A source with both quotation marks, backslashes and three kinds of line breaks. -/
theorem listing_lossless_marks :
    let src : Text := ['(', 'f', apostrophe, '\\', 'n', ' ', quoteMark, apostrophe, '\n', '\u2028', '\x85']
    let system := (FileSystem.mk [] []).put [['a']] (.file (Text.Utf8.encode src))
    sourceOf (splitLines ((listTokens false ['a']).run system).1.output) = src := by
  intro src system
  have reads : Reads system ['a'] (.ofText ['a']) (.ok src) :=
    .text (by decide) (FileSystem.read_put rfl _) (Text.Utf8.decode_encode src)
  obtain ⟨prints, -, -, -, back, -⟩ := listing_lossless src
  rw [prints false system ['a'] reads, back]

end Command
end SexprCall
