import SexprCall.Command.Run
import SexprCall.Proofs.Command.Settings
import SexprCall.Proofs.File.Conversion
import SexprCall.Proofs.File.Naming

/-! How the program may go, from its arguments to its end. -/
namespace SexprCall.Command

def report (trace : Text) (error : ConversionError) : Outcome :=
  ⟨.exit 1, [], trace ++ line ("error: ".toList ++ error.message)⟩

inductive Course (rules : Rules) (arguments : List Text) (system : FileSystem) :
    Outcome → FileSystem → Prop where
  | misused {error} : parseArguments rules arguments = .error error →
      Course rules arguments system
        ⟨.exit 2, [], usage ++ line ("lisp-desu: error: ".toList ++ error.message)⟩ system
  | helped : parseArguments rules arguments = .ok .help →
      Course rules arguments system ⟨.exit 0, helpText, []⟩ system
  | idle {settings} : parseArguments rules arguments = .ok (.run settings) → settings.input = none →
      Course rules arguments system ⟨.exit 1, [],
        line "lisp-desu: interactive mode is not implemented; pass a source file".toList⟩ system
  | unread {settings input shown error} : parseArguments rules arguments = .ok (.run settings) →
      settings.input = some input → Reads system shown (.ofText input) (.error error) →
      Course rules arguments system (report [] error) system
  | listed {settings input src trace} : parseArguments rules arguments = .ok (.run settings) →
      settings.input = some input → settings.tokens = true →
      Reads system input (.ofText input) (.ok src) → (settings.verbose = false → trace = []) →
      Course rules arguments system
        ⟨.exit 0, (tokenize src).flatMap fun token => line (token.describe src), trace⟩ system
  | unconverted {settings input src error trace} : parseArguments rules arguments = .ok (.run settings) →
      settings.input = some input → settings.tokens = false →
      Reads system (Path.ofText input).toText (.ofText input) (.ok src) →
      Converts system src (outputPath settings (.ofText input)) (.error error) system →
      Course rules arguments system (report trace error) system
  | converted {settings input src text trace after} :
      parseArguments rules arguments = .ok (.run settings) →
      settings.input = some input → settings.tokens = false →
      Reads system (Path.ofText input).toText (.ofText input) (.ok src) →
      Converts system src (outputPath settings (.ofText input)) (.ok text) after →
      (settings.verbose = false → trace = []) →
      Course rules arguments system ⟨.exit 0, line text, trace⟩ after

section

variable {system after : FileSystem}

/-- Every failure to read is reported, as the path is one that a system takes. -/
theorem failure_of_reads {shown : Text} {path : Path} {error : ConversionError}
    (reads : Reads system shown path (.error error)) (plain : holdsNul path = false)
    (trace : Text) : failure trace error = report trace error := by
  cases reads with
  | nul nul => exact absurd nul (by simp [plain])
  | refused | undecodable => rfl

theorem failure_of_converts {src : Text} {output : Path} {error : ConversionError}
    (converts : Converts system src output (.error error) after) (plain : holdsNul output = false)
    (trace : Text) : failure trace error = report trace error ∧ after = system := by
  cases converts with
  | malformed | refused => exact ⟨rfl, rfl⟩
  | nul _ nul => exact absurd nul (by simp [plain])

theorem run_listTokens {input : Text} {result : Except ConversionError Text}
    (reads : Reads system input (.ofText input) result) (verbose : Bool) :
    (listTokens verbose input).run system =
      (match result with
        | .error error => failure [] error
        | .ok src =>
          ⟨.exit 0, (tokenize src).flatMap fun token => line (token.describe src),
            if verbose then (tokenize src).flatMap (tokenTrace src) else []⟩, system) := by
  refine (FileProgram.run_bind _ _ _).trans ?_
  rw [reads.run]
  cases result <;> rfl

def sourceTrace (verbose : Bool) (src : Text) : Text :=
  if verbose then (Reader.ofText src).readAll.events.flatMap (eventTrace src) else []

theorem run_convert_unread {input : Path} {error : ConversionError}
    (reads : Reads system input.toText input (.error error)) (verbose : Bool) (output : Path) :
    (convert verbose input output).run system = (failure [] error, system) := by
  refine (FileProgram.run_bind _ _ _).trans ?_
  rw [reads.run]
  rfl

theorem run_convert {input output : Path} {src : Text} {result : Except ConversionError Text}
    (reads : Reads system input.toText input (.ok src))
    (converts : Converts system src output result after) (verbose : Bool) :
    (convert verbose input output).run system =
      (match result with
        | .error error => failure (sourceTrace verbose src) error
        | .ok text => ⟨.exit 0, line text, sourceTrace verbose src⟩, after) := by
  refine (FileProgram.run_bind _ _ _).trans ?_
  rw [reads.run]
  refine (FileProgram.run_bind _ _ _).trans ?_
  rw [converts.run]
  cases result <;> rfl

end

section

variable {rules : Rules} {arguments : List Text} {settings : Settings}

theorem Follows.plain (follows : Follows rules arguments settings)
    (plain : ∀ argument ∈ arguments, '\x00' ∉ argument) {text : Text}
    (given : settings.input = some text ∨ settings.output = some text) : '\x00' ∉ text := by
  have part : ∃ argument ∈ arguments, text ⊆ argument :=
    given.elim (follows.input_subset text) (follows.output_subset text)
  obtain ⟨argument, member, within⟩ := part
  exact fun nul => plain argument member (within nul)

theorem holdsNul_outputPath {input : Text} (plain : '\x00' ∉ input)
    (given : ∀ path, settings.output = some path → '\x00' ∉ path) :
    holdsNul (outputPath settings (.ofText input)) = false := by
  unfold outputPath
  split
  · exact holdsNul_defaultOutput plain
  · exact holdsNul_defaultOutput plain
  · rename_i path _ known
    exact holdsNul_ofText (given path known)

section

variable {input : Text} {system : FileSystem} (parsed : parseArguments rules arguments = .ok (.run settings))
  (given : settings.input = some input) (clean : '\x00' ∉ input)

include parsed given clean

theorem listTokens_course (tokens : settings.tokens = true) :
    Course rules arguments system ((listTokens settings.verbose input).run system).1
      ((listTokens settings.verbose input).run system).2 := by
  obtain ⟨result, reads⟩ := exists_reads system input (.ofText input)
  rw [run_listTokens reads]
  cases result with
  | error error =>
    simp only [failure_of_reads reads (holdsNul_ofText clean)]
    exact .unread parsed given reads
  | ok src =>
    apply Course.listed parsed given tokens reads
    intro quiet
    simp [quiet]

theorem convert_course (transpile : settings.tokens = false)
    (free : holdsNul (outputPath settings (.ofText input)) = false) :
    let conversion := convert settings.verbose (.ofText input) (outputPath settings (.ofText input))
    Course rules arguments system (conversion.run system).1 (conversion.run system).2 := by
  intro conversion
  obtain ⟨result, reads⟩ := exists_reads system (Path.ofText input).toText (.ofText input)
  cases result with
  | error error =>
    rw [run_convert_unread reads, failure_of_reads reads (holdsNul_ofText clean)]
    exact .unread parsed given reads
  | ok src =>
    obtain ⟨result, after, converts⟩ :=
      exists_converts system src (outputPath settings (.ofText input))
    rw [run_convert reads converts]
    cases result with
    | error error =>
      obtain ⟨reported, rfl⟩ := failure_of_converts converts free (sourceTrace settings.verbose src)
      simp only [reported]
      exact .unconverted parsed given transpile reads converts
    | ok text =>
      apply Course.converted parsed given transpile reads converts
      intro quiet
      simp [sourceTrace, quiet]

end

/-- Every run without a NUL in its arguments takes one of these courses. -/
theorem course (plain : ∀ argument ∈ arguments, '\x00' ∉ argument) (system : FileSystem) :
    Course rules arguments system ((run arguments rules).run system).1
      ((run arguments rules).run system).2 := by
  unfold run
  rcases parsed : parseArguments rules arguments with error | (_ | settings)
  · exact .misused parsed
  · exact .helped parsed
  · have follows := follows_of_parse parsed
    simp only [runSettings]
    cases given : settings.input with
    | none => exact .idle parsed given
    | some input =>
      have clean : '\x00' ∉ input := follows.plain plain (.inl given)
      by_cases tokens : settings.tokens = true
      · simp only [if_pos tokens]
        exact listTokens_course parsed given clean tokens
      · simp only [if_neg tokens]
        have free : holdsNul (outputPath settings (.ofText input)) = false :=
          holdsNul_outputPath clean fun path known => follows.plain plain (.inr known)
        exact convert_course parsed given clean (by simpa using tokens) free

end

end SexprCall.Command
