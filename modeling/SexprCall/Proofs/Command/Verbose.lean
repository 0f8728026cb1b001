import SexprCall.Proofs.Command.Contract
import SexprCall.Proofs.Reader.Rows
import SexprCall.Proofs.Text.Encoding

/-! Verbose mode. It puts a trace in front of what else is on the error output and changes nothing. The
trace tells of the tokens that are read and, in between, of the nodes that they complete. -/
namespace SexprCall.Command

open Text.Utf8 (encode decode_encode)

def Outcome.behind (trace : Text) (outcome : Outcome) : Outcome :=
  { outcome with errors := trace ++ outcome.errors }

section

variable {system : FileSystem} {input : Text}

end

end SexprCall.Command
