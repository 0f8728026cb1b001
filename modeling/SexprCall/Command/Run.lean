import SexprCall.Command.Settings
import SexprCall.File.Conversion
import SexprCall.Node.Dump

/-! What the command line program does and prints. -/
namespace SexprCall.Command

inductive Ending where
  | exit (status : Nat)
  | broken (error : ConversionError)
  deriving DecidableEq, Repr

structure Outcome where
  ending : Ending
  output : Text
  errors : Text
  deriving DecidableEq, Repr

def usage : Text :=
  "usage: lisp-desu [-h] [-o OUTPUT] [-v] [--tokens] [input]\n".toList

def helpText : Text := usage ++ ("\n" ++
  "Transpile S-expression source into call-expression text\n" ++
  "\n" ++
  "positional arguments:\n" ++
  "  input                 source file\n" ++
  "\n" ++
  "options:\n" ++
  "  -h, --help            show this help message and exit\n" ++
  "  -o OUTPUT, --output OUTPUT\n" ++
  "                        output path (default: input stem + .py in the current\n" ++
  "                        directory)\n" ++
  "  -v, --verbose         log tokens and parsed forms\n" ++
  "  --tokens              print the token stream instead of transpiling\n").toList

def line (text : Text) : Text := text ++ ['\n']

def tokenTrace (src : Text) (token : Token) : Text :=
  line ("lisp_desu.lexer: ".toList ++ token.describe src)

def eventTrace (src : Text) : Event → Text
  | .token token => tokenTrace src token
  | .node node => "lisp_desu.parser: read top-level node:\n".toList ++ line (node.dump src)

/-- Files that cannot be read or written and sources that cannot be read are reported. Any other
failure breaks the run off without a report. -/
def failure (trace : Text) (error : ConversionError) : Outcome :=
  match error with
  | .cannotRead .. | .cannotWrite .. | .malformed (.reading _) =>
    ⟨.exit 1, [], trace ++ line ("error: ".toList ++ error.message)⟩
  | .malformed (.rendering _) | .nulInPath => ⟨.broken error, [], trace⟩

def listTokens (verbose : Bool) (input : Text) : FileProgram Outcome := do
  match ← readSource input (.ofText input) with
  | .error error => return failure [] error
  | .ok src =>
    let tokens := tokenize src
    let trace := if verbose then tokens.flatMap (tokenTrace src) else []
    return ⟨.exit 0, tokens.flatMap fun token => line (token.describe src), trace⟩

def convert (verbose : Bool) (input output : Path) : FileProgram Outcome := do
  match ← readSource input.toText input with
  | .error error => return failure [] error
  | .ok src =>
    let trace := if verbose then (Reader.ofText src).readAll.events.flatMap (eventTrace src) else []
    match ← convertSource src output with
    | .error error => return failure trace error
    | .ok text => return ⟨.exit 0, line text, trace⟩

/-- An empty output path counts as none given. -/
def outputPath (settings : Settings) (input : Path) : Path :=
  match settings.output with
  | none | some [] => defaultOutput input
  | some path => .ofText path

def runSettings (settings : Settings) : FileProgram Outcome :=
  match settings.input with
  | none =>
    return ⟨.exit 1, [],
      line "lisp-desu: interactive mode is not implemented; pass a source file".toList⟩
  | some input =>
    if settings.tokens then listTokens settings.verbose input
    else convert settings.verbose (.ofText input) (outputPath settings (.ofText input))

/-- The whole program, from its arguments and the rules that the reader of its options goes by. -/
def run (arguments : List Text) (rules : Rules := .early) : FileProgram Outcome :=
  match parseArguments rules arguments with
  | .error error =>
    return ⟨.exit 2, [], usage ++ line ("lisp-desu: error: ".toList ++ error.message)⟩
  | .ok .help => return ⟨.exit 0, helpText, []⟩
  | .ok (.run settings) => runSettings settings

end SexprCall.Command
