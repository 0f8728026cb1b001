import SexprCall.Proofs.Command.Course
import SexprCall.Proofs.File.Writing

/-! What may be relied on about a run: its exit status, what it prints and what it does to files. -/
namespace SexprCall.Command

open Text.Utf8 (encode)

def inputOf (rules : Rules) (arguments : List Text) : Option Text :=
  match parseArguments rules arguments with
  | .ok (.run settings) => settings.input
  | _ => none

/-- The last value of the output option, if there is one and it is not empty, else the default. -/
def chosenOutput (rules : Rules) (arguments : List Text) (input : Text) : Path :=
  match (outputValues rules arguments).getLast? with
  | none | some [] => defaultOutput (.ofText input)
  | some path => .ofText path

structure Written (rules : Rules) (arguments : List Text) (system : FileSystem) (outcome : Outcome)
    (after : FileSystem) (input src text : Text) (location : Location) : Prop where
  named : inputOf rules arguments = some input
  reads : Reads system (Path.ofText input).toText (.ofText input) (.ok src)
  rendered : render src = .ok text
  opens : system.target (chosenOutput rules arguments input) = .ok location
  replaced : system.Replaced after location (encode text)
  printed : outcome.output = line text

/-- What a run does and prints, whatever the file system is. Nothing goes to the output or to a file
before the last failure that is possible. -/
structure Contract (rules : Rules) (arguments : List Text) (system : FileSystem)
    (outcome : Outcome) (after : FileSystem) : Prop where
  status : ∃ status ≤ 2, outcome.ending = .exit status
  failed : outcome.ending ≠ .exit 0 →
    outcome.output = [] ∧ outcome.errors ≠ [] ∧ after = system
  misused : outcome.ending = .exit 2 ↔ ∃ error, parseArguments rules arguments = .error error
  kept : .tokens ∈ asked rules arguments ∨ .help ∈ asked rules arguments ∨
    inputOf rules arguments = none → after = system
  written : outcome.ending = .exit 0 → .tokens ∉ asked rules arguments →
    .help ∉ asked rules arguments → ∃ input src text location,
      Written rules arguments system outcome after input src text location
  listed : outcome.ending = .exit 0 → .tokens ∈ asked rules arguments →
    .help ∉ asked rules arguments → ∃ input src, inputOf rules arguments = some input ∧
      Reads system input (.ofText input) (.ok src) ∧
      outcome.output = (tokenize src).flatMap fun token => line (token.describe src)
  quiet : outcome.ending = .exit 0 → .verbose ∉ asked rules arguments → outcome.errors = []
  unread : ∀ input, inputOf rules arguments = some input → .tokens ∈ asked rules arguments →
    (outcome.ending = .exit 1 ↔ ∃ error, Reads system input (.ofText input) (.error error))

section

variable {rules : Rules} {arguments : List Text} {settings : Settings}

theorem inputOf_of_parse (parsed : parseArguments rules arguments = .ok (.run settings)) :
    inputOf rules arguments = settings.input := by
  rw [inputOf, parsed]

theorem exists_settings {input : Text} (named : inputOf rules arguments = some input) :
    ∃ settings, parseArguments rules arguments = .ok (.run settings) ∧ settings.input = some input := by
  unfold inputOf at named
  split at named
  · exact ⟨_, ‹_›, named⟩
  · cases named

theorem tokens_not_asked (parsed : parseArguments rules arguments = .ok (.run settings))
    (transpile : settings.tokens = false) : .tokens ∉ asked rules arguments := by
  intro tokens
  rw [(follows_of_parse parsed).tokens.2 tokens] at transpile
  cases transpile

theorem outputPath_of_follows (follows : Follows rules arguments settings) (input : Text) :
    outputPath settings (.ofText input) = chosenOutput rules arguments input := by
  unfold chosenOutput
  rw [← follows.output]
  rfl

theorem line_ne_nil (text : Text) : line text ≠ [] := by simp [line]

variable {system after : FileSystem} {outcome : Outcome}

namespace Course

theorem status (course : Course rules arguments system outcome after) :
    ∃ status ≤ 2, outcome.ending = .exit status := by
  cases course with
  | misused => exact ⟨2, Nat.le_refl 2, rfl⟩
  | helped | listed | converted => exact ⟨0, Nat.zero_le 2, rfl⟩
  | idle | unread | unconverted => exact ⟨1, Nat.le_succ 1, rfl⟩

theorem failed (course : Course rules arguments system outcome after)
    (nonzero : outcome.ending ≠ .exit 0) :
    outcome.output = [] ∧ outcome.errors ≠ [] ∧ after = system := by
  cases course with
  | misused | unread | unconverted =>
    exact ⟨rfl, List.append_ne_nil_of_right_ne_nil _ (line_ne_nil _), rfl⟩
  | idle => exact ⟨rfl, line_ne_nil _, rfl⟩
  | helped | listed | converted => exact absurd rfl nonzero

theorem misused_iff (course : Course rules arguments system outcome after) :
    outcome.ending = .exit 2 ↔ ∃ error, parseArguments rules arguments = .error error := by
  cases course with
  | misused parsed => exact ⟨fun _ => ⟨_, parsed⟩, fun _ => rfl⟩
  | helped parsed | idle parsed | unread parsed | listed parsed | unconverted parsed
  | converted parsed =>
    constructor
    · rintro ⟨⟩
    · rintro ⟨error, failed⟩
      cases parsed.symm.trans failed

theorem kept (course : Course rules arguments system outcome after)
    (idle : .tokens ∈ asked rules arguments ∨ .help ∈ asked rules arguments ∨
      inputOf rules arguments = none) :
    after = system := by
  cases course with
  | converted parsed given transpile =>
    rcases idle with tokens | help | missing
    · exact absurd tokens (tokens_not_asked parsed transpile)
    · exact absurd help (follows_of_parse parsed).helpless
    · rw [inputOf_of_parse parsed, given] at missing
      cases missing
  | _ => rfl

theorem written (course : Course rules arguments system outcome after) (zero : outcome.ending = .exit 0)
    (transpile : .tokens ∉ asked rules arguments) (helpless : .help ∉ asked rules arguments) :
    ∃ input src text location, Written rules arguments system outcome after input src text location := by
  cases course with
  | misused | idle | unread | unconverted => cases zero
  | helped parsed => exact absurd (help_mem_asked parsed) helpless
  | listed parsed _ tokens => exact absurd ((follows_of_parse parsed).tokens.1 tokens) transpile
  | @converted settings input src text trace after parsed given _ reads converts =>
    have chosen := outputPath_of_follows (follows_of_parse parsed) input
    rw [chosen] at converts
    cases converts with
    | written rendered _ opens =>
      have named := (inputOf_of_parse parsed).trans given
      have replaced := FileSystem.replaced_put (FileSystem.locate_of_target opens).2 (encode text)
      exact ⟨input, src, text, _, named, reads, rendered, opens, replaced, rfl⟩

theorem listed_output (course : Course rules arguments system outcome after)
    (zero : outcome.ending = .exit 0) (tokens : .tokens ∈ asked rules arguments)
    (helpless : .help ∉ asked rules arguments) :
    ∃ input src, inputOf rules arguments = some input ∧ Reads system input (.ofText input) (.ok src) ∧
      outcome.output = (tokenize src).flatMap fun token => line (token.describe src) := by
  cases course with
  | misused | idle | unread | unconverted => cases zero
  | helped parsed => exact absurd (help_mem_asked parsed) helpless
  | listed parsed given _ reads => exact ⟨_, _, (inputOf_of_parse parsed).trans given, reads, rfl⟩
  | converted parsed _ transpile => exact absurd tokens (tokens_not_asked parsed transpile)

theorem quiet (course : Course rules arguments system outcome after) (zero : outcome.ending = .exit 0)
    (silent : .verbose ∉ asked rules arguments) : outcome.errors = [] := by
  have unset {settings : Settings} (parsed : parseArguments rules arguments = .ok (.run settings)) :
      settings.verbose = false := by
    have verbose := (follows_of_parse parsed).verbose
    simpa using mt verbose.1 silent
  cases course with
  | misused | idle | unread | unconverted => cases zero
  | helped => rfl
  | listed parsed _ _ _ trace => exact trace (unset parsed)
  | converted parsed _ _ _ _ trace => exact trace (unset parsed)

theorem unread_iff (course : Course rules arguments system outcome after) {input : Text}
    (named : inputOf rules arguments = some input) (tokens : .tokens ∈ asked rules arguments) :
    outcome.ending = .exit 1 ↔ ∃ error, Reads system input (.ofText input) (.error error) := by
  have same {settings : Settings} {other : Text}
      (parsed : parseArguments rules arguments = .ok (.run settings))
      (given : settings.input = some other) : other = input :=
    Option.some.inj ((given.symm.trans (inputOf_of_parse parsed).symm).trans named)
  cases course with
  | misused parsed | helped parsed =>
    rw [inputOf, parsed] at named
    cases named
  | idle parsed missing =>
    rw [inputOf_of_parse parsed, missing] at named
    cases named
  | unread parsed given reads =>
    obtain rfl := same parsed given
    exact ⟨fun _ => reads.shown_as _, fun _ => rfl⟩
  | listed parsed given _ reads =>
    obtain rfl := same parsed given
    constructor
    · rintro ⟨⟩
    · rintro ⟨error, failed⟩
      cases reads.unique failed
  | unconverted parsed _ transpile | converted parsed _ transpile =>
    exact absurd tokens (tokens_not_asked parsed transpile)

end Course

end

/-- Every run without a NUL in its arguments keeps the contract, whichever rules there are for options. -/
theorem run_contract (rules : Rules) (arguments : List Text)
    (plain : ∀ argument ∈ arguments, '\x00' ∉ argument) (system : FileSystem) :
    let ran := (run arguments rules).run system
    Contract rules arguments system ran.1 ran.2 := by
  intro ran
  have taken : Course rules arguments system ran.1 ran.2 := course plain system
  exact ⟨taken.status, taken.failed, taken.misused_iff, taken.kept, taken.written,
    taken.listed_output, taken.quiet, fun _ => taken.unread_iff⟩

/-- An unfinished form that is listed and not converted, with an output path that is not used. -/
theorem run_contract_listing :
    let arguments := ["a".toList, "-vo=b".toList, "--tokens".toList]
    let system := (FileSystem.mk [] []).put [['a']] (.file (encode ['(']))
    let ran := (run arguments .late).run system
    Contract .late arguments system ran.1 ran.2 ∧ ran.1.ending = .exit 0 ∧
      .tokens ∈ asked .late arguments ∧ .help ∉ asked .late arguments := by
  intro arguments system ran
  have plain : ∀ argument ∈ arguments, '\x00' ∉ argument := by decide
  refine ⟨run_contract .late arguments plain system, ?_, ?_⟩
  · rfl
  · decide

end SexprCall.Command
