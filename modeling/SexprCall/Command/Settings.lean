import SexprCall.Command.Argument

/-! What the arguments ask for together. Options may stand anywhere among at most one plain
argument. -/
namespace SexprCall.Command

structure Settings where
  input : Option Text := none
  output : Option Text := none
  verbose : Bool := false
  tokens : Bool := false
  deriving DecidableEq, Repr

def Settings.apply (settings : Settings) : Action → Settings
  | .help => settings
  | .verbose => { settings with verbose := true }
  | .tokens => { settings with tokens := true }
  | .output path => { settings with output := some path }

def Settings.applyAll (settings : Settings) (actions : List Action) : Settings :=
  actions.foldl apply settings

inductive Request where
  | help
  | run (settings : Settings)
  deriving DecidableEq, Repr

/-- The first plain argument is the input. A marker beside it is dropped; elsewhere it is surplus,
like any other plain argument. Asking for help ends the command line. -/
def consume (settings : Settings) (surplus : List Text) : List Item → Except UsageError Request
  | [] => if surplus = [] then .ok (.run settings) else .error (.unrecognized surplus)
  | .plain text :: items =>
    match settings.input, items with
    | none, .marker :: items => consume { settings with input := some text } surplus items
    | none, items => consume { settings with input := some text } surplus items
    | some _, items => consume settings (surplus ++ [text]) items
  | .marker :: items =>
    match settings.input with
    | none => consume settings surplus items
    | some _ => consume settings (surplus ++ [['-', '-']]) items
  | .unknown text :: items => consume settings (surplus ++ [text]) items
  | .option (.error error) :: _ => .error error
  | .option (.ok bundle) :: items =>
    match bundle.awaitsOutput, items with
    | true, .plain path :: items =>
      if .help ∈ bundle.actions then .ok .help
      else consume ((settings.applyAll bundle.actions).apply (.output path))
        (surplus ++ bundle.surplus) items
    | true, _ => .error (.missingValue .output)
    | false, items =>
      if .help ∈ bundle.actions then .ok .help
      else consume (settings.applyAll bundle.actions) (surplus ++ bundle.surplus) items

def parseArguments (rules : Rules) (arguments : List Text) : Except UsageError Request := do
  consume {} [] (← classifyAll rules arguments)

end SexprCall.Command
