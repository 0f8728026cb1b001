import SexprCall.File.Access
import SexprCall.Renderer
import SexprCall.Text.Newline

/-! Conversion of a source file to a file of call text. The output is opened only after the source
has been read and rendered, so a failure before leaves every file as it was. -/
namespace SexprCall

open Text.Utf8 (Bytes)

inductive ReadCause where
  | access (path : Path) (error : AccessError)
  | decoding (fault : Text.Utf8.Fault)
  deriving DecidableEq, Repr

inductive ConversionError where
  /-- The path is shown as `shown`. -/
  | cannotRead (shown : Text) (cause : ReadCause)
  | cannotWrite (path : Path) (error : AccessError)
  | malformed (error : SourceError)
  /-- No system takes a path with the character NUL. -/
  | nulInPath
  deriving DecidableEq, Repr

namespace ReadCause

def message : ReadCause → Text
  | access path error => error.message path
  | decoding fault =>
    "'utf-8' codec can't decode ".toList ++
      (if fault.first = fault.last then
        "byte 0x".toList ++ Text.hex 2 fault.lead.toNat ++ " in position ".toList ++
          Text.decimal fault.first
      else
        "bytes in position ".toList ++ Text.decimal fault.first ++ '-' ::
          Text.decimal fault.last) ++
      ": ".toList ++ fault.reason.message

end ReadCause

def ConversionError.message : ConversionError → Text
  | cannotRead shown cause => "cannot read ".toList ++ shown ++ ": ".toList ++ cause.message
  | cannotWrite path error =>
    "cannot write ".toList ++ path.toText ++ ": ".toList ++ error.message path
  | malformed error => error.message
  | nulInPath => "embedded null byte".toList

def outputExtension : Text := ".py".toList

/-- The stem of the input with the output ending, in the current directory. -/
def defaultOutput (input : Path) : Path := ⟨.current, [input.stem ++ outputExtension]⟩

def holdsNul (path : Path) : Bool := path.toText.contains '\x00'

/-- The text of a file, with unified line endings. Errors show the path as `shown`. -/
def readSource (shown : Text) (path : Path) : FileProgram (Except ConversionError Text) :=
  if holdsNul path then .done (.error .nulInPath)
  else .read path fun
    | .error error => .done (.error (.cannotRead shown (.access path error)))
    | .ok bytes =>
      match Text.Utf8.decode bytes with
      | .error fault => .done (.error (.cannotRead shown (.decoding fault)))
      | .ok text => .done (.ok text.unifyNewlines)

def writeText (path : Path) (text : Text) : FileProgram (Except ConversionError Unit) :=
  if holdsNul path then .done (.error .nulInPath)
  else .write path (Text.Utf8.encode text) fun
    | .error error => .done (.error (.cannotWrite path error))
    | .ok () => .done (.ok ())

def convertSource (src : Text) (output : Path) : FileProgram (Except ConversionError Text) :=
  match render src with
  | .error error => .done (.error (.malformed error))
  | .ok text => do
    let written ← writeText output text
    return written.map fun _ => text

def convertFile (input output : Path) : FileProgram (Except ConversionError Text) := do
  match ← readSource input.toText input with
  | .error error => return .error error
  | .ok src => convertSource src output

end SexprCall
