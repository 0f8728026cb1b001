import SexprCall.Grammar

/-! The causes for which reading stops. Each names the token at which it arose. -/
namespace SexprCall

inductive ReadError where
  | unexpected (expected : List TokenKind) (token : Token)
  /-- Outside of all forms there can only be forms. -/
  | unsupported (token : Token)
  /-- The token would open one form more than may be open at a time. -/
  | tooDeep (token : Token)
  deriving DecidableEq, Repr

namespace ReadError

def token : ReadError → Token
  | unexpected _ token | unsupported token | tooDeep token => token

def expected? : ReadError → Option (List TokenKind)
  | unexpected expected _ => some expected
  | unsupported _ => some Grammar.topLevelKinds
  | tooDeep _ => none

def place (token : Token) : Text :=
  " at ".toList ++ Text.decimal token.span.startRow ++ ':' :: Text.decimal token.span.startCol

def mismatch (expected : List TokenKind) (token : Token) : Text :=
  "expected one of [".toList ++ Text.joinWith ", ".toList (expected.map TokenKind.name) ++
    "], got ".toList ++ token.kind.name ++ place token

def message : ReadError → Text
  | unexpected expected token => mismatch expected token
  | unsupported token =>
    "unsupported top-level construct; ".toList ++ mismatch Grammar.topLevelKinds token
  | tooDeep token =>
    "forms nested deeper than ".toList ++ Text.decimal Grammar.maxDepth ++ place token

end ReadError
end SexprCall
