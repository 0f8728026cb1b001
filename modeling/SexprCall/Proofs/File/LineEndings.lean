import SexprCall.Proofs.File.Conversion
import SexprCall.Proofs.Render.Characters
import SexprCall.Proofs.Text.Encoding
import SexprCall.Proofs.Text.LineEndings

/-! Line endings across a conversion: how a source ends its lines makes no difference, and a file that
was written reads back as the text that was returned. -/
namespace SexprCall

open Text.Utf8 (Bytes encode)

namespace FileSystem

/-- Every place is what it was, but a file may hold something else. -/
structure Alike (system other : FileSystem) : Prop where
  current : other.current = system.current
  entries : ∀ location, other.lookup location = system.lookup location ∨
    ∃ old new, system.lookup location = some (.file old) ∧ other.lookup location = some (.file new)

/-- One file with one content or another. -/
theorem alike_put {system : FileSystem} {location : Location} (named : location ≠ [])
    (content different : Bytes) :
    (system.put location (.file content)).Alike (system.put location (.file different)) := by
  refine ⟨rfl, fun other => ?_⟩
  rw [put_lookup _ _ _ _ named, put_lookup _ _ _ _ named]
  by_cases same : other = location
  · rw [if_pos same, if_pos same]
    exact .inr ⟨_, _, rfl, rfl⟩
  · rw [if_neg same, if_neg same]
    exact .inl rfl

variable {system other : FileSystem}

theorem Alike.walk (alike : system.Alike other) (here : Location) (names : List Text) :
    other.walk here names = system.walk here names := by
  induction names generalizing here with
  | nil => rfl
  | cons name names ih =>
    rw [FileSystem.walk, FileSystem.walk, ih, ih]
    rcases alike.entries here with same | ⟨old, new, before, after⟩
    · rw [same]
    · rw [before, after]

/-- A path is opened for writing alike, whatever the files hold. -/
theorem Alike.target (alike : system.Alike other) (path : Path) :
    other.target path = system.target path := by
  have located : other.locate path = system.locate path := by
    rw [locate, locate, alike.current, alike.walk]
  rw [FileSystem.target, FileSystem.target, located]
  rcases system.locate path with error | location
  · rfl
  · rcases alike.entries location with same | ⟨old, new, before, after⟩
    · simp only [same]
    · simp [before, after]

end FileSystem

structure Spelled (system : FileSystem) (input : Path) (src ending : Text) : Prop where
  plain : holdsNul input = false
  known : ending ∈ Text.lineEndings
  found : system.read input = .ok (encode (src.withEndings ending))

section

variable {system other : FileSystem} {input output : Path} {src : Text}

theorem Spelled.reads {ending : Text} (spelled : Spelled system input src ending)
    (unified : '\r' ∉ src) (shown : Text) : Reads system shown input (.ok src) := by
  have reads : Reads system shown input (.ok (src.withEndings ending).unifyNewlines) :=
    .text spelled.plain spelled.found (Text.Utf8.decode_encode _)
  rwa [Text.unifyNewlines_withEndings spelled.known unified] at reads

/-- The result depends on the file system only in what the output path leads to. -/
theorem Converts.of_target {result : Except ConversionError Text} {after : FileSystem}
    (converts : Converts system src output result after)
    (same : other.target output = system.target output) :
    ∃ later, Converts other src output result later := by
  cases converts with
  | malformed failed => exact ⟨_, .malformed failed⟩
  | nul rendered nul => exact ⟨_, .nul rendered nul⟩
  | refused rendered plain refused => exact ⟨_, .refused rendered plain (same.trans refused)⟩
  | written rendered plain opens => exact ⟨_, .written rendered plain (same.trans opens)⟩

theorem Converts.read {text : Text} {after : FileSystem}
    (converts : Converts system src output (.ok text) after) :
    render src = .ok text ∧ holdsNul output = false ∧ after.read output = .ok (encode text) := by
  cases converts with
  | written rendered plain opens => exact ⟨rendered, plain, FileSystem.read_put opens _⟩

/-- Text from a file has its line endings unified, and rendering adds no carriage return. -/
theorem Reads.return_not_mem {shown text : Text} (reads : Reads system shown input (.ok src))
    (rendered : render src = .ok text) : '\r' ∉ text := by
  intro within
  rcases List.mem_append.1 (subset_of_render rendered within) with old | new
  · cases reads with
    | text => exact Text.not_mem_unifyNewlines _ old
  · revert new
    decide

end

/-- Files with the same text and one line ending or another are converted alike: to the same text,
which the output then holds, or to the same error. And what was written by any conversion is read
back as the text that it returned, which has no carriage return. -/
theorem convertFile_faithful (output : Path) :
    (∀ src : Text, '\r' ∉ src → ∀ {system input ending}, Spelled system input src ending →
      let run := (convertFile input output).run system
      Converts system src output run.1 run.2 ∧
      ∀ {other input' ending'}, Spelled other input' src ending' → system.Alike other →
        let run' := (convertFile input' output).run other
        run'.1 = run.1 ∧
        ∀ text, run.1 = .ok text → render src = .ok text ∧
          run.2.read output = .ok (encode text) ∧ run'.2.read output = .ok (encode text)) ∧
    ∀ (system : FileSystem) (input : Path) (text : Text) (after : FileSystem),
      (convertFile input output).run system = (.ok text, after) →
      '\r' ∉ text ∧ ∀ shown, (readSource shown output).run after = (.ok text, after) := by
  constructor
  · intro src unified system input ending spelled run
    obtain ⟨result, after, converts⟩ := exists_converts system src output
    have ran : run = (result, after) :=
      (run_convertFile (spelled.reads unified _) output).trans converts.run
    rw [ran]
    refine ⟨converts, ?_⟩
    intro other input' ending' spelled' alike run'
    -- Both files read as the same source, so only what the output leads to could make a difference.
    obtain ⟨later, converts'⟩ := converts.of_target (alike.target output)
    have ran' : run' = (result, later) :=
      (run_convertFile (spelled'.reads unified _) output).trans converts'.run
    rw [ran']
    refine ⟨rfl, ?_⟩
    rintro text rfl
    exact ⟨converts.read.1, converts.read.2.2, converts'.read.2.2⟩
  · intro system input text after ran
    obtain ⟨src, reads, converts⟩ := exists_of_convertFile ran
    obtain ⟨rendered, plain, written⟩ := converts.read
    have unified : '\r' ∉ text := reads.return_not_mem rendered
    refine ⟨unified, fun shown => ?_⟩
    have again : Reads after shown output (.ok text.unifyNewlines) :=
      .text plain written (Text.Utf8.decode_encode text)
    rw [Text.unifyNewlines_eq_self unified] at again
    exact again.run

/-- One file, first with pairs of return and feed and then with lone returns. -/
theorem convertFile_faithful_rewritten :
    let path : Path := ⟨.current, [['a']]⟩
    let src : Text := "(f)\n(g)".toList
    let holding (ending : Text) : FileSystem :=
      (FileSystem.mk [] []).put [['a']] (.file (encode (src.withEndings ending)))
    let run (ending : Text) := (convertFile path (defaultOutput path)).run (holding ending)
    (run ['\r']).1 = (run ['\r', '\n']).1 := by
  intro path src holding run
  have spelled {ending : Text} (known : ending ∈ Text.lineEndings) :
      Spelled (holding ending) path src ending :=
    ⟨by decide, known, FileSystem.read_put rfl _⟩
  have alike : (holding ['\r', '\n']).Alike (holding ['\r']) :=
    FileSystem.alike_put (by decide) _ _
  have unified : '\r' ∉ src := by decide
  have converted := (convertFile_faithful (defaultOutput path)).1 src unified
    (@spelled ['\r', '\n'] (by decide))
  exact (converted.2 (spelled (by decide)) alike).1

end SexprCall
