import SexprCall.Text.Basic
import SexprCall.Text.Printable

/-! Quoted texts: one line of printable characters that shows any text without loss. -/
namespace SexprCall.Text

def apostrophe : Char := '\x27'

def quoteMark : Char := '\x22'

def hex (width code : Nat) : Text := (Nat.toDigits 16 code).leftpad width '0'

/-- Two, four or eight hexadecimal digits, the fewest that hold the code point. -/
def codeEscape (c : Char) : Text :=
  if c.toNat < 0x100 then '\\' :: 'x' :: hex 2 c.toNat
  else if c.toNat < 0x10000 then '\\' :: 'u' :: hex 4 c.toNat
  else '\\' :: 'U' :: hex 8 c.toNat

def escape (mark c : Char) : Text :=
  if c = '\\' ∨ c = mark then ['\\', c]
  else if c = '\n' then ['\\', 'n']
  else if c = '\r' then ['\\', 'r']
  else if c = '\t' then ['\\', 't']
  else if isPrintable c then [c]
  else codeEscape c

/-- Double quotation marks enclose a text that has apostrophes and no double quotation mark;
apostrophes enclose any other. -/
def enclosing (text : Text) : Char :=
  if apostrophe ∈ text ∧ quoteMark ∉ text then quoteMark else apostrophe

def quoted (text : Text) : Text :=
  enclosing text :: text.flatMap (escape (enclosing text)) ++ [enclosing text]

end SexprCall.Text
