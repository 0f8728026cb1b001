import Mathlib.Data.List.Forall2
import SexprCall.Command.Settings

/-! How the parts of a command line may be spelled, and the items that they are taken for. A spelling
leaves no trace in the items, except that the value of the output option may be an item of its own. -/
namespace SexprCall.Command

inductive Part where
  | input (text : Text)
  | option (action : Action)
  deriving DecidableEq, Repr

/-- The long name of an option, whole or cut anywhere after its first letter. -/
structure Switch.Named (switch : Switch) (name : Text) : Prop where
  within : name <+: switch.long
  lettered : 3 ≤ name.length

/-- A value that may stand right behind the letter of its option as well as in an argument of its own. -/
structure Attachable (value : Text) : Prop where
  nonempty : value ≠ []
  undashed : value.head? ≠ some '-'
  unequal : value.head? ≠ some '='

def verboseLetters (count : Nat) : Text := List.replicate count 'v'

def verboseOutput (count : Nat) (path : Text) : List Part :=
  (List.replicate count Action.verbose ++ [Action.output path]).map .option

/-- The arguments of one group, and what it says by all rules. Flags may stand before the letter of the
output option, though not when an equals sign follows it: the early rules count the sign as part of the
value there, the late ones do not. -/
inductive Spells : List Text → List Part → Prop where
  | input {text} : text.head? ≠ some '-' → Spells [text] [.input text]
  | letters (count) :
      Spells ['-' :: verboseLetters (count + 1)] (List.replicate (count + 1) (.option .verbose))
  | verbose {name} : Switch.verbose.Named name → Spells [name] [.option .verbose]
  | tokens {name} : Switch.tokens.Named name → Spells [name] [.option .tokens]
  | apart (count) {path} : Attachable path →
      Spells ['-' :: (verboseLetters count ++ ['o']), path] (verboseOutput count path)
  | joined (count) {path} : Attachable path →
      Spells ['-' :: (verboseLetters count ++ 'o' :: path)] (verboseOutput count path)
  | equals {path} : Attachable path → Spells ['-' :: 'o' :: '=' :: path] [.option (.output path)]
  | longApart {name path} : Switch.output.Named name → Attachable path →
      Spells [name, path] [.option (.output path)]
  | longEquals {name path} : Switch.output.Named name → Attachable path →
      Spells [name ++ '=' :: path] [.option (.output path)]

inductive Brings : List Item → List Part → Prop where
  | input {text} : Brings [.plain text] [.input text]
  | option {actions} : .help ∉ actions →
      Brings [.option (.ok { actions })] (actions.map .option)
  | awaiting {actions path} : .help ∉ actions →
      Brings [.option (.ok { actions, awaitsOutput := true }), .plain path]
        ((actions ++ [Action.output path]).map .option)

theorem Brings.unmarked {items : List Item} {parts : List Part} (brought : Brings items parts) :
    .marker ∉ items := by
  cases brought <;> simp

structure TakenFor (rules : Rules) (argument : Text) (item : Item) : Prop where
  unmarked : argument ≠ ['-', '-']
  classified : classify rules argument = .ok item

variable {rules : Rules}

theorem classifyAll_of_takenFor {arguments : List Text} {items : List Item}
    (taken : List.Forall₂ (TakenFor rules) arguments items) :
    classifyAll rules arguments = .ok items := by
  induction taken with
  | nil => rfl
  | cons first _ ih =>
    rw [classifyAll, if_neg first.unmarked, first.classified, ih]
    rfl

theorem takenFor_plain {text : Text} (undashed : text.head? ≠ some '-') :
    TakenFor rules text (.plain text) := by
  constructor
  · rintro rfl
    exact undashed rfl
  · unfold classify
    split
    · exact absurd rfl undashed
    · exact absurd rfl undashed
    · rfl

theorem takenFor_letters {c : Char} {switch : Switch} (known : Switch.ofLetter? c = some switch)
    (rest : Text) : TakenFor rules ('-' :: c :: rest) (.option (unpackShort rules switch rest)) := by
  have letter : c ≠ '-' := by
    rintro rfl
    cases known
  constructor
  · simp [letter]
  · simp [classify, known]

section

variable {value : Text} (attachable : Attachable value)

include attachable

theorem unpack_output : unpack rules .output (some value) = .ok { actions := [.output value] } := by
  have proper : value ≠ ['-', '-'] := by
    rintro rfl
    exact attachable.undashed rfl
  cases rules with
  | early => simp [unpack, Switch.action?, Rules.attachedOutput, proper]
  | late => rfl

theorem unpackLetters_output :
    unpackLetters rules .output value = .ok { actions := [.output value] } := by
  cases value with
  | nil => exact absurd rfl attachable.nonempty
  | cons c letters =>
    have unequal : c ≠ '=' := by simpa using attachable.unequal
    simp [unpackLetters, unequal, Switch.action?, unpack_output attachable]

/-- The rules differ in where the sign is passed over, but not right behind the first letter. -/
theorem unpackShort_equals :
    unpackShort rules .output ('=' :: value) = .ok { actions := [.output value] } := by
  cases rules with
  | early =>
    rw [unpackShort, unpackLetters_output attachable]
    exact attachable.nonempty
  | late => rfl

end

theorem unpackShort_eq_unpackLetters (switch : Switch) {rest : Text}
    (unequal : rest.head? ≠ some '=') :
    unpackShort rules switch rest = unpackLetters rules switch rest := by
  unfold unpackShort
  split
  · exact absurd rfl unequal
  · exact absurd rfl unequal
  · rfl

/-- A flag in front of the letter of an option puts its action in front. -/
theorem unpackLetters_flag {c : Char} {next : Switch} (known : Switch.ofLetter? c = some next)
    {letters : Text} {bundle : Bundle} (unpacked : unpackLetters rules next letters = .ok bundle) :
    unpackLetters rules .verbose (c :: letters) =
      .ok { bundle with actions := .verbose :: bundle.actions } := by
  have unequal : c ≠ '=' := by
    rintro rfl
    cases known
  simp only [unpackLetters, unequal, and_false, if_false, Switch.action?, known, unpacked]
  rfl

theorem unpackLetters_verbose (count : Nat) (letters : Text) {bundle : Bundle}
    (unpacked : unpackLetters rules .verbose letters = .ok bundle) :
    unpackLetters rules .verbose (verboseLetters count ++ letters) =
      .ok { bundle with actions := List.replicate count .verbose ++ bundle.actions } := by
  induction count with
  | zero => exact unpacked
  | succ count ih =>
    have flag : Switch.ofLetter? 'v' = some .verbose := rfl
    exact unpackLetters_flag flag ih

/-- The first of the flags is the letter that the others follow. -/
theorem takenFor_verbose (rules : Rules) (count : Nat) (letters : Text) (bundle : Bundle)
    (unequal : letters.head? ≠ some '=')
    (unpacked : unpackLetters rules .verbose letters =
      .ok { bundle with actions := .verbose :: bundle.actions }) :
    TakenFor rules ('-' :: (verboseLetters (count + 1) ++ letters))
      (.option (.ok { bundle with
        actions := List.replicate (count + 1) .verbose ++ bundle.actions })) := by
  -- The sign could only stand right behind the first flag, so it is in doubt for a single flag alone.
  have unequal : (verboseLetters count ++ letters).head? ≠ some '=' := by
    cases count with
    | zero => exact unequal
    | succ count => simp [verboseLetters, List.replicate_succ]
  have unpacked := unpackLetters_verbose count letters unpacked
  rw [← unpackShort_eq_unpackLetters _ unequal, List.append_cons (List.replicate count _),
    ← List.replicate_succ'] at unpacked
  exact unpacked ▸ takenFor_letters rfl (verboseLetters count ++ letters)

/-- The letter of the output option behind flags, with the text after it. -/
theorem takenFor_verboseOutput (rules : Rules) (count : Nat) (rest : Text) {bundle : Bundle}
    (unequal : rest.head? ≠ some '=') (unpacked : unpackLetters rules .output rest = .ok bundle) :
    TakenFor rules ('-' :: (verboseLetters count ++ 'o' :: rest))
      (.option (.ok { bundle with actions := List.replicate count .verbose ++ bundle.actions })) := by
  cases count with
  | zero =>
    rw [← unpackShort_eq_unpackLetters _ unequal] at unpacked
    exact unpacked ▸ takenFor_letters rfl rest
  | succ count =>
    exact takenFor_verbose rules count ('o' :: rest) bundle (by simp) (unpackLetters_flag rfl unpacked)

/-- No two options have the same letter behind the dashes, so one letter is enough of a name. -/
theorem Switch.beginning_take (switch : Switch) :
    ∀ count ≤ switch.long.length, 3 ≤ count → beginning (switch.long.take count) = [switch] := by
  cases switch <;> decide

namespace Switch.Named

variable {switch : Switch} {name : Text}

theorem beginning_eq (named : switch.Named name) : beginning name = [switch] := by
  have taken := switch.beginning_take name.length named.within.length_le named.lettered
  rwa [← List.prefix_iff_eq_take.1 named.within] at taken

theorem unequal (named : switch.Named name) : '=' ∉ name := by
  intro member
  have within : '=' ∈ switch.long := named.within.subset member
  revert within
  cases switch <;> decide

theorem exists_letters (named : switch.Named name) :
    ∃ c letters, name = '-' :: '-' :: c :: letters := by
  obtain ⟨⟨rest, whole⟩, lettered⟩ := named
  have dashes : switch.long.take 2 = ['-', '-'] := by cases switch <;> rfl
  rw [← whole] at dashes
  match name, lettered with
  | first :: second :: c :: letters, _ =>
    obtain ⟨rfl, rfl⟩ : first = '-' ∧ second = '-' := by simpa using dashes
    exact ⟨c, letters, rfl⟩

/-- Behind the name there is nothing, or an equals sign and a value. -/
theorem takenFor (named : switch.Named name) (rest : Text) (sign : ∀ c ∈ rest.head?, c = '=') :
    TakenFor rules (name ++ rest) (.option (unpack rules switch rest.tail?)) := by
  have before : ∀ c ∈ name, (c != '=') = true := by
    intro c member
    have other : c ≠ '=' := fun same => named.unequal (same ▸ member)
    simpa using other
  have cut : (name ++ rest).takeWhile (· != '=') = name ∧
      (name ++ rest).dropWhile (· != '=') = rest := by
    rw [List.takeWhile_append_of_pos before, List.dropWhile_append_of_pos before]
    cases rest with
    | nil => simp
    | cons c rest =>
      obtain rfl := sign c rfl
      simp
  obtain ⟨c, letters, dashed⟩ := named.exists_letters
  constructor
  · simp [dashed]
  · have long : classify rules (name ++ rest) = classifyLong rules (name ++ rest) := by
      rw [dashed]
      rfl
    rw [long, classifyLong, cut.1, cut.2, named.beginning_eq]

theorem takenFor_bare (named : switch.Named name) :
    TakenFor rules name (.option (unpack rules switch none)) := by
  have taken : TakenFor rules (name ++ []) _ := named.takenFor [] (by simp)
  rwa [List.append_nil] at taken

end Switch.Named

/-- The arguments of a group are taken for items that say what it spells. -/
theorem Spells.takenFor {arguments : List Text} {parts : List Part}
    (spelled : Spells arguments parts) (rules : Rules) :
    ∃ items, List.Forall₂ (TakenFor rules) arguments items ∧ Brings items parts := by
  have flags (count : Nat) : .help ∉ List.replicate count Action.verbose := by simp
  cases spelled with
  | input undashed => exact ⟨_, .cons (takenFor_plain undashed) .nil, .input⟩
  | letters count =>
    have taken := takenFor_verbose rules count [] { actions := [] } (by simp) rfl
    rw [List.append_nil, List.append_nil] at taken
    refine ⟨_, .cons taken .nil, ?_⟩
    rw [← List.map_replicate]
    exact .option (flags _)
  | verbose named => exact ⟨_, .cons named.takenFor_bare .nil, .option (by simp)⟩
  | tokens named => exact ⟨_, .cons named.takenFor_bare .nil, .option (by simp)⟩
  | apart count attachable =>
    have taken := takenFor_verboseOutput rules count [] (by simp) rfl
    rw [List.append_nil] at taken
    exact ⟨_, .cons taken (.cons (takenFor_plain attachable.undashed) .nil), .awaiting (flags _)⟩
  | @joined count path attachable =>
    have taken := takenFor_verboseOutput rules count path attachable.unequal
      (unpackLetters_output attachable)
    exact ⟨_, .cons taken .nil, .option (by simp)⟩
  | @equals path attachable =>
    have taken : TakenFor rules ('-' :: 'o' :: '=' :: path) _ := takenFor_letters rfl ('=' :: path)
    rw [unpackShort_equals attachable] at taken
    exact ⟨_, .cons taken .nil, .option (by simp)⟩
  | longApart named attachable =>
    exact ⟨_, .cons named.takenFor_bare (.cons (takenFor_plain attachable.undashed) .nil),
      .awaiting List.not_mem_nil⟩
  | @longEquals name path named attachable =>
    have taken : TakenFor rules (name ++ '=' :: path) _ := named.takenFor ('=' :: path) (by simp)
    exact ⟨_, .cons (unpack_output attachable ▸ taken) .nil, .option (by simp)⟩

end SexprCall.Command
