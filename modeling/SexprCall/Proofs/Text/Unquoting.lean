import Mathlib.Algebra.Group.Nat.Defs
import SexprCall.Text.Quoted

/-! Reading quoted texts back. Quoting loses nothing: each character is found again in what stands for
it, and the marks around tell which of the two marks is escaped. -/
namespace SexprCall.Text

def digitValue (c : Char) : Nat :=
  if c ≤ '9' then c.toNat - '0'.toNat else c.toNat - 'a'.toNat + 10

def hexValue (digits : Text) : Nat := digits.foldl (fun value c => 16 * value + digitValue c) 0

def digitCount? : Char → Option Nat
  | 'x' => some 2
  | 'u' => some 4
  | 'U' => some 8
  | _ => none

/-- The character that stands for another one, or for itself, after a backslash. -/
def unescapeLetter : Char → Char
  | 'n' => '\n'
  | 'r' => '\r'
  | 't' => '\t'
  | c => c

def unescape : Text → Text
  | [] => []
  | '\\' :: c :: rest =>
    match digitCount? c with
    | some count => Char.ofNat (hexValue (rest.take count)) :: unescape (rest.drop count)
    | none => unescapeLetter c :: unescape rest
  | c :: rest => c :: unescape rest
termination_by text => text.length
decreasing_by all_goals simp <;> omega

def unquote (text : Text) : Text := unescape text.tail.dropLast

theorem digitValue_digitChar {n : Nat} (small : n < 16) : digitValue n.digitChar = n := by
  revert n
  decide

theorem hexValue_append (digits : Text) (c : Char) :
    hexValue (digits ++ [c]) = 16 * hexValue digits + digitValue c := by
  rw [hexValue, hexValue, List.foldl_append, List.foldl_cons, List.foldl_nil]

theorem hexValue_toDigits (n : Nat) : hexValue (Nat.toDigits 16 n) = n := by
  induction n using Nat.strongRecOn with
  | ind n ih =>
    rw [Nat.toDigits_eq_if (by decide)]
    split
    · rename_i small
      simp [hexValue, digitValue_digitChar small]
    · rename_i large
      rw [hexValue_append, ih _ (by omega), digitValue_digitChar (by omega)]
      omega

/-- Zeros in front do not count. -/
theorem hexValue_hex (width n : Nat) : hexValue (hex width n) = n := by
  have zeros (count : Nat) : hexValue (List.replicate count '0') = 0 := by
    induction count with
    | zero => rfl
    | succ count ih =>
      rw [List.replicate_succ', hexValue_append, ih]
      rfl
  have front := zeros (width - (Nat.toDigits 16 n).length)
  have value := hexValue_toDigits n
  unfold hexValue at front value ⊢
  rw [hex, List.leftpad, List.foldl_append, front, value]

theorem hex_length {width n : Nat} (positive : 0 < width) (fits : n < 16 ^ width) :
    (hex width n).length = width := by
  have short : (Nat.toDigits 16 n).length ≤ width :=
    (Nat.length_toDigits_le_iff (by decide) positive).2 fits
  rw [hex, List.length_leftpad]
  omega

theorem unescape_letter {c : Char} (lone : digitCount? c = none) (rest : Text) :
    unescape ('\\' :: c :: rest) = unescapeLetter c :: unescape rest := by
  rw [unescape, lone]

theorem unescape_plain {c : Char} (plain : c ≠ '\\') (rest : Text) :
    unescape (c :: rest) = c :: unescape rest := by
  rw [unescape]
  rintro _ _ rfl
  exact absurd rfl plain

theorem unescape_code {letter : Char} {width : Nat} (counts : digitCount? letter = some width)
    (positive : 0 < width) {c : Char} (fits : c.toNat < 16 ^ width) (rest : Text) :
    unescape ('\\' :: letter :: (hex width c.toNat ++ rest)) = c :: unescape rest := by
  have length := hex_length positive fits
  rw [unescape, counts]
  simp only
  rw [List.take_left' length, List.drop_left' length, hexValue_hex, Char.ofNat_toNat]

/-- What stands for a character is taken for this character, whatever comes after it. -/
theorem unescape_escape {mark : Char} (marks : mark = apostrophe ∨ mark = quoteMark) (c : Char)
    (rest : Text) : unescape (escape mark c ++ rest) = c :: unescape rest := by
  unfold escape
  split
  · rename_i marked
    rcases marked with rfl | rfl
    · exact unescape_letter (by decide) rest
    · rcases marks with rfl | rfl <;> exact unescape_letter (by decide) rest
  rename_i unmarked
  split
  · subst c
    exact unescape_letter (by decide) rest
  split
  · subst c
    exact unescape_letter (by decide) rest
  split
  · subst c
    exact unescape_letter (by decide) rest
  split
  · rw [not_or] at unmarked
    exact unescape_plain unmarked.1 rest
  have code : c.toNat < 0x110000 := by
    have valid := c.valid
    simp only [UInt32.isValidChar, Nat.isValidChar] at valid
    rw [Char.toNat]
    omega
  unfold codeEscape
  split
  · exact unescape_code rfl (by decide) (by omega) rest
  split
  · exact unescape_code rfl (by decide) (by omega) rest
  · exact unescape_code rfl (by decide) (by omega) rest

theorem enclosing_cases (text : Text) : enclosing text = apostrophe ∨ enclosing text = quoteMark := by
  unfold enclosing
  split
  · exact .inr rfl
  · exact .inl rfl

theorem unquote_quoted (text : Text) : unquote (quoted text) = text := by
  have marks := enclosing_cases text
  generalize hidden : enclosing text = mark at marks
  rw [unquote, quoted, hidden, List.cons_append, List.tail_cons, List.dropLast_concat]
  clear hidden
  induction text with
  | nil => rw [List.flatMap_nil, unescape]
  | cons c text ih => rw [List.flatMap_cons, unescape_escape marks, ih]

end SexprCall.Text
