import SexprCall.Text.Basic

/-! Line endings: a carriage return, a line feed, and the pair of both in this order each end a
line. Inside the program a line feed alone does. -/
namespace SexprCall.Text

/-- A line feed right after a carriage return belongs to the ending that the return has made. -/
def unifyNewlinesAfter : (afterReturn : Bool) → Text → Text
  | _, [] => []
  | afterReturn, c :: rest =>
    if c = '\r' then '\n' :: unifyNewlinesAfter true rest
    else if c = '\n' ∧ afterReturn then unifyNewlinesAfter false rest
    else c :: unifyNewlinesAfter false rest

def unifyNewlines (text : Text) : Text := unifyNewlinesAfter false text

end SexprCall.Text
