import SexprCall.Token

/-! Lexemes: parts of a source with a kind. Every text that is not empty starts with one, so a
source of any shape falls into lexemes. -/
namespace SexprCall

structure Lexeme where
  kind : TokenKind
  text : Text
  deriving DecidableEq, Repr

namespace Lexeme

def keywords : List Text :=
  ["defun", "and", "or", "not", "cond", "nil", "if", "case"].map String.toList

/-- Words that begin with none of these are not keywords. -/
def initials : List Char := (keywords.filterMap List.head?).eraseDups

def startsKeyword (c : Char) : Bool := initials.contains c

theorem startsKeyword_of_mem {c : Char} {rest : Text} (keyword : c :: rest ∈ keywords) :
    startsKeyword c = true := by
  have initial : c ∈ keywords.filterMap List.head? := List.mem_filterMap.2 ⟨_, keyword, rfl⟩
  simpa [startsKeyword, initials] using initial

def spacing : List Char := [' ', '\t', '\n']

def isSpacing (c : Char) : Bool := spacing.contains c

def literalQuotes : List Char := [Text.quoteMark]

def endsWord (c : Char) : Bool := c == '(' || c == ')' || isSpacing c

/-- A text bounds a word if it is a part of the pair of parentheses, if only the empty part, or one
spacing character. -/
def boundsWord (text : Text) : Bool :=
  [[], ['('], [')'], ['(', ')']].contains text || spacing.any ([·] == text)

theorem boundsWord_singleton (c : Char) : boundsWord [c] = endsWord c := by
  simp [boundsWord, endsWord, isSpacing, spacing, eq_comm, Bool.beq_eq_decide_eq]

/-- The kinds of the characters that are always a lexeme of their own. -/
def single? : Char → Option TokenKind
  | '\x27' => some .backquote
  | '\x60' => some .backquote
  | '&' => some .ampersand
  | '=' => some .equals
  | '!' => some .bang
  | '<' => some .openAngleBracket
  | '>' => some .closeAngleBracket
  | '(' => some .openParen
  | ')' => some .closeParen
  | ',' => some .comma
  | _ => none

def run (kind : TokenKind) (within : Char → Bool) (first : Char) (rest : Text) : Lexeme × Text :=
  (⟨kind, first :: rest.takeWhile within⟩, rest.dropWhile within)

def classify (word : Text) : TokenKind := if word ∈ keywords then .keyword else .identifier

/-- A literal ends with the quote that opened it, or with the source. There are no escapes. -/
def literal (quote : Char) (rest : Text) : Lexeme × Text :=
  let inside := rest.takeWhile (· != quote)
  match rest.dropWhile (· != quote) with
  | [] => (⟨.literal, quote :: inside⟩, [])
  | close :: after => (⟨.literal, quote :: inside ++ [close]⟩, after)

/-- The first lexeme of a text and the text after it. -/
def scan (first : Char) (rest : Text) : Lexeme × Text :=
  if first = ';' then run .lineComment (· != '\n') first rest
  else match single? first with
    | some kind => (⟨kind, [first]⟩, rest)
    | none =>
      if isSpacing first then run .whitespace isSpacing first rest
      else if startsKeyword first then
        let word := first :: rest.takeWhile (!endsWord ·)
        (⟨classify word, word⟩, rest.dropWhile (!endsWord ·))
      else if literalQuotes.contains first then literal first rest
      else run .identifier (!endsWord ·) first rest

@[simp] theorem run_kind (kind : TokenKind) (within : Char → Bool) (first : Char) (rest : Text) :
    (run kind within first rest).1.kind = kind := rfl

@[simp] theorem run_text (kind : TokenKind) (within : Char → Bool) (first : Char) (rest : Text) :
    (run kind within first rest).1.text = first :: rest.takeWhile within := rfl

@[simp] theorem run_rest (kind : TokenKind) (within : Char → Bool) (first : Char) (rest : Text) :
    (run kind within first rest).2 = rest.dropWhile within := rfl

@[simp] theorem literal_kind (quote : Char) (rest : Text) :
    (literal quote rest).1.kind = .literal := by
  unfold literal; split <;> rfl

@[simp] theorem literal_head (quote : Char) (rest : Text) :
    (literal quote rest).1.text.head? = some quote := by
  unfold literal; split <;> rfl

@[simp] theorem literal_append (quote : Char) (rest : Text) :
    (literal quote rest).1.text ++ (literal quote rest).2 = quote :: rest := by
  have whole := List.takeWhile_append_dropWhile (p := (· != quote)) (l := rest)
  unfold literal
  split <;> simp_all

@[simp] theorem classify_ne_endOfInput (word : Text) : classify word ≠ .endOfInput := by
  unfold classify; split <;> simp

theorem single?_ne_endOfInput {c : Char} {kind : TokenKind} (found : single? c = some kind) :
    kind ≠ .endOfInput := by
  rintro rfl
  unfold single? at found
  split at found <;> simp at found

/-- Scanning loses nothing. -/
theorem scan_append (first : Char) (rest : Text) :
    (scan first rest).1.text ++ (scan first rest).2 = first :: rest := by
  unfold scan
  repeat' split
  all_goals simp

theorem scan_head (first : Char) (rest : Text) : (scan first rest).1.text.head? = some first := by
  unfold scan
  repeat' split
  all_goals simp

theorem scan_text_ne_nil (first : Char) (rest : Text) : (scan first rest).1.text ≠ [] := by
  intro empty
  have head := scan_head first rest
  simp [empty] at head

theorem scan_kind_ne_endOfInput (first : Char) (rest : Text) :
    (scan first rest).1.kind ≠ .endOfInput := by
  unfold scan
  split
  · simp
  split
  · exact single?_ne_endOfInput ‹_›
  repeat' split
  all_goals simp

theorem scan_rest_length (first : Char) (rest : Text) :
    (scan first rest).2.length ≤ rest.length := by
  have whole := congrArg List.length (scan_append first rest)
  have characters := List.length_pos_iff.2 (scan_text_ne_nil first rest)
  simp only [List.length_append, List.length_cons] at whole
  omega

end Lexeme
end SexprCall
