import SexprCall.Text.Ranges
import SexprCall.Text.Basic

/-! Blank characters, and texts without the blanks at their ends. -/
namespace SexprCall.Text

def blanks : List (Nat × Nat) := [
  (0x9, 0xD), (0x1C, 0x20), (0x85, 0x85), (0xA0, 0xA0), (0x1680, 0x1680), (0x2000, 0x200A),
  (0x2028, 0x2029), (0x202F, 0x202F), (0x205F, 0x205F), (0x3000, 0x3000)]

def isBlank (c : Char) : Bool := inRanges blanks c.toNat

def stripLeft (text : Text) : Text := text.dropWhile isBlank

def stripRight (text : Text) : Text := (stripLeft text.reverse).reverse

def strip (text : Text) : Text := stripRight (stripLeft text)

end SexprCall.Text
