import SexprCall.Text.Quoted

/-! The options of the command line and the faults that arguments can have. -/
namespace SexprCall.Command

inductive Switch where
  | help
  | output
  | verbose
  | tokens
  deriving DecidableEq, Repr

namespace Switch

def all : List Switch := [help, output, verbose, tokens]

def letter? : Switch → Option Char
  | help => some 'h'
  | output => some 'o'
  | verbose => some 'v'
  | tokens => none

def long : Switch → Text
  | help => "--help".toList
  | output => "--output".toList
  | verbose => "--verbose".toList
  | tokens => "--tokens".toList

def ofLetter? (c : Char) : Option Switch := all.find? (·.letter? == some c)

/-- The options whose long spelling begins like this. -/
def beginning (text : Text) : List Switch := all.filter (text.isPrefixOf ·.long)

def spellings (switch : Switch) : Text :=
  match switch.letter? with
  | none => switch.long
  | some c => '-' :: c :: '/' :: switch.long

end Switch

inductive UsageError where
  | ambiguous (argument : Text) (candidates : List Switch)
  | ignoredValue (switch : Switch) (value : Text)
  | missingValue (switch : Switch)
  | unrecognized (arguments : List Text)
  deriving DecidableEq, Repr

def UsageError.message : UsageError → Text
  | ambiguous argument candidates =>
    "ambiguous option: ".toList ++ argument ++ " could match ".toList ++
      Text.joinWith ", ".toList (candidates.map Switch.long)
  | ignoredValue switch value =>
    "argument ".toList ++ switch.spellings ++ ": ignored explicit argument ".toList ++
      Text.quoted value
  | missingValue switch =>
    "argument ".toList ++ switch.spellings ++ ": expected one argument".toList
  | unrecognized arguments =>
    "unrecognized arguments: ".toList ++ Text.joinWith [' '] arguments

end SexprCall.Command
