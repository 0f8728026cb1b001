import SexprCall.Token

/-! What the reader accepts where, and how deep forms may nest. -/
namespace SexprCall.Grammar

/-- The kinds that may come next inside a form, besides trivia. -/
def formKinds : List TokenKind := [
  .identifier, .keyword, .backquote, .literal, .openParen, .closeParen, .openAngleBracket,
  .closeAngleBracket, .equals, .bang, .ampersand]

def topLevelKinds : List TokenKind := [.whitespace, .lineComment, .openParen, .endOfInput]

def maxDepth : Nat := 128

end SexprCall.Grammar
