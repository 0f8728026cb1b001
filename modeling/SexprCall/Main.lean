import SexprCall.Command.Run

/-! The program on the files of the system. -/
namespace SexprCall

/-- Some calls of the system give the negated number. -/
def AccessError.ofNumber (number : UInt32) (reason : String) : AccessError :=
  match number.toInt32.toInt.natAbs with
  | 2 => .notFound
  | 20 => .notDirectory
  | 21 => .isDirectory
  | 36 => .nameTooLong
  | number => .other number reason.toList

def AccessError.ofError : IO.Error → AccessError
  | .alreadyExists _ number reason | .otherError number reason | .resourceBusy number reason
  | .resourceVanished number reason | .unsupportedOperation number reason
  | .hardwareFault number reason | .unsatisfiedConstraints number reason
  | .illegalOperation number reason | .protocolError number reason | .timeExpired number reason
  | .interrupted _ number reason | .noFileOrDirectory _ number reason
  | .invalidArgument _ number reason | .permissionDenied _ number reason
  | .resourceExhausted _ number reason | .inappropriateType _ number reason
  | .noSuchThing _ number reason => ofNumber number reason
  | .unexpectedEof => .other 5 "Input/output error".toList
  | .userError reason => .other 5 reason.toList

def AccessError.catching {α : Type} (action : IO α) : IO (Except AccessError α) :=
  try
    return .ok (← action)
  catch error => return .error (ofError error)

def FileProgram.perform {α : Type} : FileProgram α → IO α
  | done value => return value
  | read path next => do
    let content ← AccessError.catching (IO.FS.readBinFile (String.ofList path.toText))
    (next (content.map fun bytes => bytes.toList)).perform
  | write path content next => do
    let written ← AccessError.catching
      (IO.FS.writeBinFile (String.ofList path.toText) ⟨content.toArray⟩)
    (next written).perform

end SexprCall

def main (arguments : List String) : IO UInt32 := do
  let outcome ← (SexprCall.Command.run (arguments.map String.toList)).perform
  IO.eprint (String.ofList outcome.errors)
  IO.print (String.ofList outcome.output)
  match outcome.ending with
  | .exit status => return status.toUInt32
  | .broken error => throw (.userError (String.ofList error.message))
