import SexprCall.Position
import SexprCall.Text.Quoted

/-! Tokens: classified parts of a source. -/
namespace SexprCall

inductive TokenKind where
  | keyword
  | identifier
  | whitespace
  | comma
  | openParen
  | closeParen
  | openAngleBracket
  | closeAngleBracket
  | equals
  | bang
  | ampersand
  | backquote
  | literal
  | lineComment
  /-- Reserved: no source holds one. -/
  | dummy
  | endOfInput
  deriving DecidableEq, Repr

namespace TokenKind

def all : List TokenKind := [
  keyword, identifier, whitespace, comma, openParen, closeParen, openAngleBracket,
  closeAngleBracket, equals, bang, ampersand, backquote, literal, lineComment, dummy, endOfInput]

theorem mem_all (kind : TokenKind) : kind ∈ all := by cases kind <;> decide

def name : TokenKind → Text
  | keyword => "Keyword".toList
  | identifier => "Identifier".toList
  | whitespace => "Whitespace".toList
  | comma => "Comma".toList
  | openParen => "OpenParen".toList
  | closeParen => "CloseParen".toList
  | openAngleBracket => "OpenAngleBracket".toList
  | closeAngleBracket => "CloseAngleBracket".toList
  | equals => "Equals".toList
  | bang => "Bang".toList
  | ampersand => "Ampersand".toList
  | backquote => "Backquote".toList
  | literal => "Literal".toList
  | lineComment => "LineComment".toList
  | dummy => "Dummy".toList
  | endOfInput => "EndOfInput".toList

/-- Spacing and comments separate other tokens and mean nothing else. -/
def isTrivia : TokenKind → Bool
  | whitespace | lineComment => true
  | _ => false

end TokenKind

structure Token where
  kind : TokenKind
  span : Span
  length : Nat
  deriving DecidableEq, Repr

namespace Token

def ofText (position : Position) (kind : TokenKind) (text : Text) : Token :=
  ⟨kind, .ofText position text, text.length⟩

/-- The end of input has no row or column, only the offset that was reached. -/
def atEnd (position : Position) : Token :=
  ⟨.endOfInput, { start := position.offset, stop := position.offset }, 0⟩

def text (src : Text) (token : Token) : Text :=
  if token.kind = .endOfInput then [] else token.span.text src

def describe (src : Text) (token : Token) : Text :=
  token.span.corners ++ token.kind.name ++ ' ' :: Text.quoted (token.text src)

end Token
end SexprCall
