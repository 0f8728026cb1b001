import SexprCall.Command.Switch
import SexprCall.Text.Digit

/-! Single arguments: plain text, or options in short or long spelling with what they ask for. -/
namespace SexprCall.Command

inductive Action where
  | help
  | verbose
  | tokens
  | output (path : Text)
  deriving DecidableEq, Repr

/-- Readers of options go by one of two sets of rules for the text right behind an option. By the early
ones an equals sign is passed over behind the first letter only, a letter of no option is a fault, and a
value of two dashes counts as empty. By the late ones an equals sign begins a value behind any letter,
letters of no option are surplus, and every value counts as it stands. -/
inductive Rules where
  | early
  | late
  deriving DecidableEq, Repr

structure Bundle where
  actions : List Action
  /-- The next argument is the value of the output option. -/
  awaitsOutput : Bool := false
  /-- Letters of no option, as an argument of their own. -/
  surplus : List Text := []
  deriving DecidableEq, Repr

/-- The action of an option that takes no value. -/
def Switch.action? : Switch → Option Action
  | help => some .help
  | output => none
  | verbose => some .verbose
  | tokens => some .tokens

def Rules.attachedOutput : Rules → Text → Action
  | early, value => .output (if value = ['-', '-'] then [] else value)
  | late, value => .output value

def unpack (rules : Rules) (switch : Switch) (value? : Option Text) : Except UsageError Bundle :=
  match switch.action?, value? with
  | none, none => .ok { actions := [], awaitsOutput := true }
  | none, some value => .ok { actions := [rules.attachedOutput value] }
  | some action, none => .ok { actions := [action] }
  | some _, some value => .error (.ignoredValue switch value)

/-- An option by its letter and the text right after it: the option's value or, if it takes none,
the letters of more options. -/
def unpackLetters (rules : Rules) (switch : Switch) : Text → Except UsageError Bundle
  | [] => unpack rules switch none
  | c :: letters =>
    if rules = .late ∧ c = '=' then unpack rules switch (some letters)
    else
      match switch.action?, Switch.ofLetter? c with
      | some action, some next => do
        let bundle ← unpackLetters rules next letters
        return { bundle with actions := action :: bundle.actions }
      | some action, none =>
        -- A dash is a fault by all rules.
        if rules = .late ∧ c ≠ '-' then .ok { actions := [action], surplus := ['-' :: c :: letters] }
        else unpack rules switch (some (c :: letters))
      | none, _ => unpack rules switch (some (c :: letters))

def unpackShort (rules : Rules) (switch : Switch) (rest : Text) : Except UsageError Bundle :=
  match rules, rest with
  | .early, ['='] => unpack rules switch (some [])
  | .early, '=' :: rest => unpackLetters rules switch rest
  | _, _ => unpackLetters rules switch rest

inductive Item where
  | plain (text : Text)
  /-- Two dashes: all arguments after it are plain. -/
  | marker
  /-- A fault in an option counts only when its turn comes. -/
  | option (bundle : Except UsageError Bundle)
  | unknown (text : Text)

/-- Digits, or a dot between digits with at least one after it; a line feed may end it. -/
def isNumber (text : Text) : Bool :=
  let digits := if text.getLast? = some '\n' then text.dropLast else text
  match digits.dropWhile Text.isDigit with
  | [] => digits != []
  | '.' :: fraction => fraction != [] && fraction.all Text.isDigit
  | _ => false

/-- An argument that begins like an option and is none is plain if it is a negative number or holds
a space. -/
def dashed (argument : Text) : Item :=
  if isNumber (argument.drop 1) || argument.contains ' ' then .plain argument
  else .unknown argument

/-- Long names may be cut as long as they belong to one option only. -/
def classifyLong (rules : Rules) (argument : Text) : Except UsageError Item :=
  match Switch.beginning (argument.takeWhile (· != '=')) with
  | [] => .ok (dashed argument)
  | [switch] => .ok (.option (unpack rules switch (argument.dropWhile (· != '=')).tail?))
  | candidates => .error (.ambiguous argument candidates)

def classify (rules : Rules) (argument : Text) : Except UsageError Item :=
  match argument with
  | '-' :: '-' :: _ => classifyLong rules argument
  | '-' :: c :: rest =>
    match Switch.ofLetter? c with
    | some switch => .ok (.option (unpackShort rules switch rest))
    | none => .ok (dashed argument)
  | _ => .ok (.plain argument)

def classifyAll (rules : Rules) : List Text → Except UsageError (List Item)
  | [] => .ok []
  | argument :: arguments =>
    if argument = ['-', '-'] then .ok (.marker :: arguments.map .plain)
    else do
      let item ← classify rules argument
      let items ← classifyAll rules arguments
      return item :: items

end SexprCall.Command
