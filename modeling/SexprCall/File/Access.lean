import SexprCall.File.Path
import SexprCall.Text.Quoted
import SexprCall.Text.Utf8

/-! Access to files: the operations a program may ask for, and the reasons for which the system
refuses one. -/
namespace SexprCall

open Text.Utf8 (Bytes)

inductive AccessError where
  | notFound
  | notDirectory
  | isDirectory
  | nameTooLong
  | other (number : Nat) (reason : Text)
  deriving DecidableEq, Repr

namespace AccessError

def number : AccessError → Nat
  | notFound => 2
  | notDirectory => 20
  | isDirectory => 21
  | nameTooLong => 36
  | other number _ => number

def reason : AccessError → Text
  | notFound => "No such file or directory".toList
  | notDirectory => "Not a directory".toList
  | isDirectory => "Is a directory".toList
  | nameTooLong => "File name too long".toList
  | other _ reason => reason

def message (path : Path) (error : AccessError) : Text :=
  "[Errno ".toList ++ Text.decimal error.number ++ "] ".toList ++ error.reason ++
    ": ".toList ++ Text.quoted path.toText

end AccessError

inductive FileProgram (α : Type) where
  | done (value : α)
  | read (path : Path) (next : Except AccessError Bytes → FileProgram α)
  | write (path : Path) (content : Bytes) (next : Except AccessError Unit → FileProgram α)

namespace FileProgram

def bind {α β : Type} : FileProgram α → (α → FileProgram β) → FileProgram β
  | done value, next => next value
  | read path later, next => read path fun answer => (later answer).bind next
  | write path content later, next => write path content fun answer => (later answer).bind next

instance : Monad FileProgram where
  pure := done
  bind := bind

end FileProgram
end SexprCall
