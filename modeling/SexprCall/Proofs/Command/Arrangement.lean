import SexprCall.Command.Run
import SexprCall.File.System
import SexprCall.Proofs.Command.Settings
import SexprCall.Proofs.Command.Spelling

/-! Command lines that say the same, with one input and at most one output. Whatever the order and the
spelling of their parts, they come to the same settings and so to the same run. -/
namespace SexprCall.Command

def Part.input? : Part → Option Text
  | input text => some text
  | option _ => none

def Part.action? : Part → Option Action
  | input _ => none
  | option action => some action

inductive Line : List Text → List Part → Prop where
  | nil : Line [] []
  | cons {arguments group rest parts} : Spells arguments group → Line rest parts →
      Line (arguments ++ rest) (group ++ parts)

/-- What a command line says, apart from order and spelling. The numbers tell how often a flag is given. -/
structure Content where
  input : Text
  output : Option Text
  verbose : Nat
  tokens : Nat

namespace Content

def actions (content : Content) : List Action :=
  content.output.toList.map .output ++ List.replicate content.verbose .verbose ++
    List.replicate content.tokens .tokens

def parts (content : Content) : List Part := .input content.input :: content.actions.map .option

def Arranges (content : Content) (arguments : List Text) : Prop :=
  ∃ parts, Line arguments parts ∧ parts.Perm content.parts

/-- A flag is set once it is given. -/
def settings (content : Content) : Settings where
  input := some content.input
  output := content.output
  verbose := content.verbose ≠ 0
  tokens := content.tokens ≠ 0

end Content

namespace Settings

def applyPart (settings : Settings) : Part → Settings
  | .input text => { settings with input := some text }
  | .option action => settings.apply action

def applyParts (settings : Settings) (parts : List Part) : Settings := parts.foldl applyPart settings

theorem applyParts_append (settings : Settings) (first second : List Part) :
    settings.applyParts (first ++ second) = (settings.applyParts first).applyParts second :=
  List.foldl_append

theorem applyParts_actions (settings : Settings) (actions : List Action) :
    settings.applyParts (actions.map .option) = settings.applyAll actions :=
  List.foldl_map

theorem input_apply (settings : Settings) (action : Action) :
    (settings.apply action).input = settings.input := by
  cases action <;> rfl

/-- The input and the actions do not depend on how they are mixed. -/
theorem applyParts_eq (settings : Settings) (parts : List Part) :
    settings.applyParts parts =
      { settings.applyAll (parts.filterMap Part.action?) with
        input := (parts.filterMap Part.input?).getLast?.or settings.input } := by
  induction parts generalizing settings with
  | nil => rfl
  | cons part parts ih =>
    refine (ih (settings.applyPart part)).trans ?_
    cases part with
    | input text =>
      cases last : (parts.filterMap Part.input?).getLast? <;>
        simp [applyPart, applyAll_input, List.filterMap_cons, Part.action?, Part.input?,
          List.getLast?_cons, last]
    | option action =>
      simp [applyPart, Part.action?, Part.input?, applyAll, input_apply]

/-- The input already known and those among the parts are one at most. -/
def OneInput (settings : Settings) (parts : List Part) : Prop :=
  (settings.input.toList ++ parts.filterMap Part.input?).length ≤ 1

namespace OneInput

variable {settings : Settings}

theorem of_append {first second : List Part} (single : settings.OneInput (first ++ second)) :
    settings.OneInput first := by
  simp only [OneInput, List.filterMap_append, List.length_append] at single ⊢
  omega

theorem fresh {text : Text} {parts : List Part}
    (single : settings.OneInput (.input text :: parts)) : settings.input = none := by
  cases known : settings.input with
  | none => rfl
  | some other => simp [OneInput, known, Part.input?] at single

theorem applyPart {part : Part} {parts : List Part} (single : settings.OneInput (part :: parts)) :
    (settings.applyPart part).OneInput parts := by
  cases part with
  | input text =>
    simpa [OneInput, List.filterMap_cons, Part.input?, Settings.applyPart, single.fresh] using single
  | option action =>
    simpa [OneInput, List.filterMap_cons, Part.input?, Settings.applyPart, input_apply] using single

theorem applyParts {first second : List Part} (single : settings.OneInput (first ++ second)) :
    (settings.applyParts first).OneInput second := by
  induction first generalizing settings with
  | nil => exact single
  | cons part first ih => exact ih single.applyPart

end OneInput

end Settings

section

variable {settings : Settings} {later : List Item} (unmarked : .marker ∉ later) (surplus : List Text)

include unmarked

theorem consume_input {text : Text} (fresh : settings.input = none) :
    consume settings surplus (.plain text :: later) =
      consume { settings with input := some text } surplus later := by
  cases later with
  | nil => simp [consume, fresh]
  | cons item later =>
    cases item with
    | marker => exact absurd List.mem_cons_self unmarked
    | plain | option | unknown => simp [consume, fresh]

/-- What a group says goes into the settings, and nothing of it is surplus. -/
theorem Brings.consume {items : List Item} {parts : List Part} (brought : Brings items parts)
    (single : settings.OneInput parts) :
    consume settings surplus (items ++ later) = consume (settings.applyParts parts) surplus later := by
  cases brought with
  | input => exact consume_input unmarked surplus single.fresh
  | option helpless =>
    rw [Settings.applyParts_actions]
    simp [Command.consume, helpless]
  | awaiting helpless =>
    rw [Settings.applyParts_actions, Settings.applyAll_append]
    simp only [List.cons_append, List.nil_append, List.append_nil, Command.consume, if_neg helpless]
    rfl

end

/-- What a whole command line says goes into the settings. -/
theorem Line.consume {arguments : List Text} {parts : List Part} (line : Line arguments parts)
    (rules : Rules) :
    ∃ items, List.Forall₂ (TakenFor rules) arguments items ∧ .marker ∉ items ∧
      ∀ settings : Settings, settings.OneInput parts →
        consume settings [] items = .ok (.run (settings.applyParts parts)) := by
  -- A marker beside the input would be dropped together with it, so the items behind a group count too.
  induction line with
  | nil => exact ⟨[], .nil, List.not_mem_nil, fun _ _ => rfl⟩
  | cons spelled _ ih =>
    obtain ⟨items, taken, brought⟩ := spelled.takenFor rules
    obtain ⟨later, takenLater, unmarked, consumed⟩ := ih
    refine ⟨items ++ later, List.rel_append taken takenLater, ?_, ?_⟩
    · simp [brought.unmarked, unmarked]
    · intro settings single
      rw [brought.consume unmarked [] single.of_append, Settings.applyParts_append]
      exact consumed _ single.applyParts

namespace Content

section

variable {content : Content} {parts : List Part} (same : parts.Perm content.parts)

include same

theorem inputs_eq : parts.filterMap Part.input? = [content.input] := by
  have inputs : content.parts.filterMap Part.input? = [content.input] := by
    simp [Content.parts, Part.input?, Function.comp_def]
  exact List.perm_singleton.1 (inputs ▸ same.filterMap Part.input?)

theorem actions_perm : (parts.filterMap Part.action?).Perm content.actions := by
  have actions : content.parts.filterMap Part.action? = content.actions := by
    simp [Content.parts, List.filterMap_cons, Part.action?, Function.comp_def]
  exact actions ▸ same.filterMap Part.action?

/-- There is one output at most, so it is the last wherever it stands. -/
theorem values_eq :
    (parts.filterMap Part.action?).filterMap Action.value? = content.output.toList := by
  have values : content.actions.filterMap Action.value? = content.output.toList := by
    cases given : content.output <;>
      simp [Content.actions, given, List.filterMap_replicate, Action.value?]
  have perm := values ▸ (actions_perm same).filterMap Action.value?
  cases given : content.output with
  | none =>
    rw [given] at perm
    exact List.perm_nil.1 perm
  | some path =>
    rw [given] at perm
    exact List.perm_singleton.1 perm

theorem applyParts_eq_settings : ({} : Settings).applyParts parts = content.settings := by
  have perm := actions_perm same
  have output : (({} : Settings).applyAll (parts.filterMap Part.action?)).output = content.output := by
    rw [Settings.applyAll_output, values_eq same]
    cases content.output <;> rfl
  have verbose : (({} : Settings).applyAll (parts.filterMap Part.action?)).verbose =
      decide (content.verbose ≠ 0) := by
    rw [Bool.eq_iff_iff, Settings.applyAll_verbose, perm.mem_iff]
    simp [Content.actions]
  have tokens : (({} : Settings).applyAll (parts.filterMap Part.action?)).tokens =
      decide (content.tokens ≠ 0) := by
    rw [Bool.eq_iff_iff, Settings.applyAll_tokens, perm.mem_iff]
    simp [Content.actions]
  rw [Settings.applyParts_eq, inputs_eq same]
  simp only [output, verbose, tokens]
  rfl

end

theorem Arranges.parse {content : Content} {arguments : List Text}
    (arranged : content.Arranges arguments) (rules : Rules) :
    parseArguments rules arguments = .ok (.run content.settings) := by
  obtain ⟨parts, line, same⟩ := arranged
  obtain ⟨items, taken, -, consumed⟩ := line.consume rules
  have single : ({} : Settings).OneInput parts := by
    simp [Settings.OneInput, inputs_eq same]
  rw [parseArguments, classifyAll_of_takenFor taken, ← applyParts_eq_settings same]
  exact consumed {} single

end Content

/-- All rules understand the arrangements of one content in the same way, and the runs have the same exit
status, print the same and leave the same files behind. -/
theorem run_arranged (rules : Rules) {content : Content} {first second : List Text}
    (one : content.Arranges first) (other : content.Arranges second) (system : FileSystem) :
    parseArguments rules first = .ok (.run content.settings) ∧
      (run first rules).run system = (run second rules).run system := by
  refine ⟨one.parse rules, ?_⟩
  rw [run, run, one.parse, other.parse]

/-- Flags in three places, or two of them in front of the output option with its value behind it. -/
theorem run_arranged_fused :
    let content : Content := ⟨"a".toList, some "b=c".toList, 3, 0⟩
    let first := ["--verb".toList, "a".toList, "-vo".toList, "b=c".toList, "-v".toList]
    let second := ["-vvob=c".toList, "a".toList, "--v".toList]
    let system := (FileSystem.mk [] []).put [['a']] (.file (Text.Utf8.encode "(f)".toList))
    content.Arranges first ∧ content.Arranges second ∧
      parseArguments .late first = .ok (.run content.settings) ∧
      (run first .late).run system = (run second .late).run system := by
  intro content first second system
  have input : Spells ["a".toList] [.input "a".toList] := .input (by decide)
  have flag : Spells ["-v".toList] [.option .verbose] := .letters 0
  have value : Attachable "b=c".toList := ⟨by decide, by decide, by decide⟩
  have one : Line first _ :=
    .cons (.verbose ⟨by decide, by decide⟩) (.cons input (.cons (.apart 1 value) (.cons flag .nil)))
  have other : Line second _ :=
    .cons (.joined 2 value) (.cons input (.cons (.verbose ⟨by decide, by decide⟩) .nil))
  have arranged : content.Arranges first := ⟨_, one, by decide⟩
  have again : content.Arranges second := ⟨_, other, by decide⟩
  exact ⟨arranged, again, run_arranged .late arranged again system⟩

end SexprCall.Command
