import SexprCall.Command.Settings
import SexprCall.Proofs.Command.Argument

/-! What the arguments ask for as a whole: all their actions are carried out in order, unless help is
among them. -/
namespace SexprCall.Command

def Action.value? : Action → Option Text
  | output path => some path
  | _ => none

namespace Settings

theorem applyAll_append (settings : Settings) (first second : List Action) :
    settings.applyAll (first ++ second) = (settings.applyAll first).applyAll second :=
  List.foldl_append

/-- Actions do not look at the input. -/
theorem applyAll_input (settings : Settings) (input : Option Text) (actions : List Action) :
    { settings with input := input }.applyAll actions =
      { settings.applyAll actions with input := input } := by
  induction actions generalizing settings with
  | nil => rfl
  | cons action actions ih =>
    have first : { settings with input := input }.apply action =
        { settings.apply action with input := input } := by
      cases action <;> rfl
    rw [applyAll, List.foldl_cons, first]
    exact ih _

@[simp] theorem input_applyAll (settings : Settings) (actions : List Action) :
    (settings.applyAll actions).input = settings.input :=
  congrArg (·.input) (settings.applyAll_input settings.input actions)

/-- The last value counts. -/
theorem applyAll_output (settings : Settings) (actions : List Action) :
    (settings.applyAll actions).output =
      (actions.filterMap Action.value?).getLast?.or settings.output := by
  induction actions generalizing settings with
  | nil => rfl
  | cons action actions ih =>
    rw [applyAll, List.foldl_cons]
    refine (ih _).trans ?_
    cases action with
    | output path => cases last : (actions.filterMap Action.value?).getLast? <;>
        simp [Action.value?, apply, List.getLast?_cons, last]
    | help | verbose | tokens => rfl

/-- A flag that one action sets and no other action changes. -/
theorem applyAll_flag {flag : Settings → Bool} {sets : Action}
    (apply_flag : ∀ settings action,
      flag (apply settings action) = true ↔ flag settings = true ∨ sets = action)
    (settings : Settings) (actions : List Action) :
    flag (settings.applyAll actions) = true ↔ flag settings = true ∨ sets ∈ actions := by
  induction actions generalizing settings with
  | nil => simp [applyAll]
  | cons action actions ih =>
    have later : flag ((settings.apply action).applyAll actions) = true ↔ _ := ih _
    rw [apply_flag, or_assoc, ← List.mem_cons] at later
    exact later

theorem applyAll_tokens (settings : Settings) (actions : List Action) :
    (settings.applyAll actions).tokens = true ↔ settings.tokens = true ∨ .tokens ∈ actions := by
  apply applyAll_flag
  intro settings action
  cases action <;> simp [apply]

theorem applyAll_verbose (settings : Settings) (actions : List Action) :
    (settings.applyAll actions).verbose = true ↔ settings.verbose = true ∨ .verbose ∈ actions := by
  apply applyAll_flag
  intro settings action
  cases action <;> simp [apply]

end Settings

/-- The actions that the items ask for, in their order. A plain item after an option that awaits a
value is this value. -/
def requested : (awaiting : Bool) → List Item → List Action
  | _, [] => []
  | true, .plain path :: items => .output path :: requested false items
  | _, .option (.ok bundle) :: items => bundle.actions ++ requested bundle.awaitsOutput items
  | _, _ :: items => requested false items

/-- The request carries out what the items ask for. Its input is the one known before or a plain item. -/
inductive Grants (settings : Settings) (items : List Item) : Request → Prop where
  | help : .help ∈ requested false items → Grants settings items .help
  | run {result} : .help ∉ requested false items →
      result = { settings.applyAll (requested false items) with input := result.input } →
      (∀ text, result.input = some text → settings.input = some text ∨ .plain text ∈ items) →
      Grants settings items (.run result)

/-- The actions of the items in front come first. -/
theorem Grants.step {settings later : Settings} {items rest : List Item} {request : Request}
    {first : List Action} (granted : Grants later rest request)
    (split : requested false items = first ++ requested false rest) (helpless : .help ∉ first)
    (applied : later = { settings.applyAll first with input := later.input })
    (input : ∀ text, later.input = some text → settings.input = some text ∨ .plain text ∈ items)
    (inside : rest ⊆ items) : Grants settings items request := by
  cases granted with
  | help asked =>
    apply Grants.help
    rw [split]
    exact List.mem_append_right _ asked
  | @run result unasked carried known =>
    apply Grants.run
    · rw [split, List.mem_append, not_or]
      exact ⟨helpless, unasked⟩
    · rw [split, Settings.applyAll_append, carried, applied, Settings.applyAll_input]
    · intro text given
      rcases known text given with before | member
      · exact input text before
      · exact .inr (inside member)

/-- An item that asks for no action is passed over. -/
theorem Grants.pass {settings : Settings} {item : Item} {rest : List Item} {request : Request}
    (granted : Grants settings rest request)
    (idle : requested false (item :: rest) = requested false rest) :
    Grants settings (item :: rest) request := by
  have split : requested false (item :: rest) = [] ++ requested false rest := idle
  apply granted.step split List.not_mem_nil rfl
  · exact fun _ known => .inl known
  · exact List.subset_cons_self item rest

theorem Grants.take {settings : Settings} {text : Text} {rest : List Item} {request : Request}
    (granted : Grants { settings with input := some text } rest request) :
    Grants settings (.plain text :: rest) request := by
  have idle : requested false (.plain text :: rest) = [] ++ requested false rest := rfl
  apply granted.step idle List.not_mem_nil rfl
  · rintro other ⟨⟩
    exact .inr List.mem_cons_self
  · exact List.subset_cons_self _ rest

theorem Grants.act {settings : Settings} {items rest : List Item} {request : Request}
    {first : List Action} (granted : Grants (settings.applyAll first) rest request)
    (split : requested false items = first ++ requested false rest) (helpless : .help ∉ first)
    (inside : rest ⊆ items) : Grants settings items request := by
  have kept := settings.input_applyAll first
  apply granted.step split helpless rfl
  · intro text known
    exact .inl (kept ▸ known)
  · exact inside

theorem consume_grants {settings : Settings} {surplus : List Text} {items : List Item}
    {request : Request} (consumed : consume settings surplus items = .ok request) :
    Grants settings items request := by
  fun_induction consume settings surplus items with
  | case1 settings =>
    obtain rfl := Except.ok.inj consumed
    exact .run List.not_mem_nil rfl fun _ known => .inl known
  | case2 | case9 | case12 => cases consumed
  | case3 settings surplus text items fresh ih =>
    -- The marker beside the input is dropped, as if it stood after it.
    have marked : Grants _ (.marker :: items) request := (ih consumed).pass rfl
    exact marked.take
  | case4 settings surplus text items unmarked fresh ih => exact (ih consumed).take
  | case5 settings surplus text given items known ih => exact (ih consumed).pass rfl
  | case6 settings surplus items fresh ih => exact (ih consumed).pass rfl
  | case7 settings surplus items given known ih => exact (ih consumed).pass rfl
  | case8 settings surplus text items ih => exact (ih consumed).pass rfl
  | case10 settings surplus bundle path items awaits asked =>
    obtain rfl := Except.ok.inj consumed
    exact .help (List.mem_append_left _ asked)
  | case11 settings surplus bundle path items awaits unasked ih =>
    have granted := ih consumed
    have joined : (settings.applyAll bundle.actions).apply (.output path) =
        settings.applyAll (bundle.actions ++ [.output path]) :=
      (settings.applyAll_append bundle.actions [.output path]).symm
    rw [joined] at granted
    apply granted.act
    · rw [requested, awaits, requested, List.append_assoc]
      rfl
    · simpa using unasked
    · exact fun _ member => List.mem_cons_of_mem _ (List.mem_cons_of_mem _ member)
  | case13 settings surplus bundle items closed asked =>
    obtain rfl := Except.ok.inj consumed
    exact .help (List.mem_append_left _ asked)
  | case14 settings surplus bundle items closed unasked ih =>
    apply (ih consumed).act
    · rw [requested, closed]
    · exact unasked
    · exact List.subset_cons_self _ items

/-- A value of the output option stands in an option's argument or is an argument of its own. -/
theorem carries_of_requested {awaiting : Bool} {items : List Item} {path : Text}
    (asked : .output path ∈ requested awaiting items) : ∃ item ∈ items, item.Carries path := by
  have outside {item : Item} {items : List Item} :
      (∃ item ∈ items, item.Carries path) → ∃ other ∈ item :: items, other.Carries path := by
    rintro ⟨other, member, carried⟩
    exact ⟨other, List.mem_cons_of_mem _ member, carried⟩
  fun_induction requested awaiting items with
  | case1 => cases asked
  | case2 value items ih =>
    rcases List.mem_cons.1 asked with same | asked
    · obtain rfl : path = value := Action.output.inj same
      exact ⟨_, List.mem_cons_self, .plain⟩
    · exact outside (ih asked)
  | case3 awaiting bundle items ih =>
    rcases List.mem_append.1 asked with here | later
    · exact ⟨_, List.mem_cons_self, .value here⟩
    · exact outside (ih later)
  | case4 awaiting item items _ _ ih => exact outside (ih asked)

/-- The actions that a command line asks for, in their order. -/
def asked (rules : Rules) (arguments : List Text) : List Action :=
  match classifyAll rules arguments with
  | .error _ => []
  | .ok items => requested false items

def outputValues (rules : Rules) (arguments : List Text) : List Text :=
  (asked rules arguments).filterMap Action.value?

structure Follows (rules : Rules) (arguments : List Text) (settings : Settings) : Prop where
  helpless : .help ∉ asked rules arguments
  output : settings.output = (outputValues rules arguments).getLast?
  tokens : settings.tokens = true ↔ .tokens ∈ asked rules arguments
  verbose : settings.verbose = true ↔ .verbose ∈ asked rules arguments
  input_subset : ∀ text, settings.input = some text → ∃ argument ∈ arguments, text ⊆ argument
  output_subset : ∀ text, settings.output = some text → ∃ argument ∈ arguments, text ⊆ argument

section

variable {rules : Rules} {arguments : List Text}

theorem grants_of_parse {request : Request} (parsed : parseArguments rules arguments = .ok request) :
    ∃ items, classifyAll rules arguments = .ok items ∧ asked rules arguments = requested false items ∧
      Grants {} items request := by
  obtain ⟨items, classified, consumed⟩ := exists_of_bind_ok parsed
  refine ⟨items, classified, ?_, consume_grants consumed⟩
  rw [asked, classified]

theorem help_mem_asked (parsed : parseArguments rules arguments = .ok .help) :
    .help ∈ asked rules arguments := by
  obtain ⟨items, -, same, granted⟩ := grants_of_parse parsed
  cases granted with
  | help member => exact same ▸ member

theorem follows_of_parse {settings : Settings}
    (parsed : parseArguments rules arguments = .ok (.run settings)) : Follows rules arguments settings := by
  obtain ⟨items, classified, same, granted⟩ := grants_of_parse parsed
  cases granted with
  | run helpless carried known =>
    rw [← same] at helpless carried
    have output : settings.output = (outputValues rules arguments).getLast? := by
      rw [carried]
      exact (Settings.applyAll_output _ _).trans (Option.or_none)
    refine ⟨helpless, output, ?_, ?_, ?_, ?_⟩
    · rw [carried]
      simp [Settings.applyAll_tokens]
    · rw [carried]
      simp [Settings.applyAll_verbose]
    · intro text given
      rcases known text given with none | member
      · cases none
      · exact classifyAll_subset classified member .plain
    · intro text given
      rw [output] at given
      obtain ⟨action, among, value⟩ := List.mem_filterMap.1 (List.mem_of_getLast? given)
      cases action with
      | output path =>
        obtain rfl : path = text := Option.some.inj value
        obtain ⟨item, member, carries⟩ := carries_of_requested (same ▸ among)
        exact classifyAll_subset classified member carries
      | help | verbose | tokens => cases value

/-- A value may be an argument of its own, or follow its option after other letters. There the early rules
count an equals sign as a part of it. -/
example :
    let arguments := ["-o".toList, "a".toList, "b".toList, "-vo=c".toList]
    outputValues .early arguments = ["a".toList, "=c".toList] ∧
      outputValues .late arguments = ["a".toList, "c".toList] := by decide

end

end SexprCall.Command
