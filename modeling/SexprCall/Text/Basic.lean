/-! Texts are lists of code points. Offsets and columns count code points. -/
namespace SexprCall

abbrev Text := List Char

namespace Text

/-- The half-open range `start ≤ i < stop`, cut to the text; empty when `stop ≤ start`. -/
def slice (text : Text) (start stop : Nat) : Text := (text.drop start).take (stop - start)

theorem slice_length (before middle after : Text) :
    slice (before ++ (middle ++ after)) before.length (before.length + middle.length) = middle := by
  simp [slice]

def decimal (n : Nat) : Text := Nat.toDigits 10 n

def twoDigits (n : Nat) : Text := (decimal n).leftpad 2 '0'

def joinWith (separator : Text) (parts : List Text) : Text := separator.intercalate parts

end Text
end SexprCall
