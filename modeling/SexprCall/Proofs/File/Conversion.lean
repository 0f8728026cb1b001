import SexprCall.File.Conversion
import SexprCall.Proofs.File.Writing
import SexprCall.Proofs.Render.Success

/-! What comes of reading a source file and of converting it, for every file system. All failures come
before the one write, so a conversion that fails leaves the file system as it was. -/
namespace SexprCall

open Text.Utf8 (decode encode)

inductive Reads (system : FileSystem) (shown : Text) (path : Path) :
    Except ConversionError Text → Prop where
  | nul : holdsNul path = true → Reads system shown path (.error .nulInPath)
  | refused {error} : holdsNul path = false → system.read path = .error error →
      Reads system shown path (.error (.cannotRead shown (.access path error)))
  | undecodable {bytes fault} : holdsNul path = false → system.read path = .ok bytes →
      decode bytes = .error fault →
      Reads system shown path (.error (.cannotRead shown (.decoding fault)))
  | text {bytes raw} : holdsNul path = false → system.read path = .ok bytes →
      decode bytes = .ok raw → Reads system shown path (.ok raw.unifyNewlines)

inductive Converts (system : FileSystem) (src : Text) (output : Path) :
    Except ConversionError Text → FileSystem → Prop where
  | malformed {error} : parse src = .error error →
      Converts system src output (.error (.malformed (.reading error))) system
  | nul {text} : render src = .ok text → holdsNul output = true →
      Converts system src output (.error .nulInPath) system
  | refused {text error} : render src = .ok text → holdsNul output = false →
      system.target output = .error error →
      Converts system src output (.error (.cannotWrite output error)) system
  | written {text location} : render src = .ok text → holdsNul output = false →
      system.target output = .ok location →
      Converts system src output (.ok text) (system.put location (.file (encode text)))

section

variable {system : FileSystem}

theorem Reads.run {shown : Text} {path : Path} {result : Except ConversionError Text}
    (reads : Reads system shown path result) :
    (readSource shown path).run system = (result, system) := by
  cases reads with
  | nul nul => simp [readSource, nul, FileProgram.run]
  | refused plain refused => simp [readSource, plain, FileProgram.run, refused]
  | undecodable plain found fault => simp [readSource, plain, FileProgram.run, found, fault]
  | text plain found raw => simp [readSource, plain, FileProgram.run, found, raw]

theorem exists_reads (system : FileSystem) (shown : Text) (path : Path) :
    ∃ result, Reads system shown path result := by
  by_cases nul : holdsNul path = true
  · exact ⟨_, .nul nul⟩
  have plain : holdsNul path = false := by simpa using nul
  rcases found : system.read path with error | bytes
  · exact ⟨_, .refused plain found⟩
  rcases raw : decode bytes with fault | text
  · exact ⟨_, .undecodable plain found raw⟩
  · exact ⟨_, .text plain found raw⟩

theorem Reads.unique {shown : Text} {path : Path} {result other : Except ConversionError Text}
    (reads : Reads system shown path result) (reads' : Reads system shown path other) :
    result = other :=
  congrArg Prod.fst (reads.run.symm.trans reads'.run)

/-- Whether a source can be read does not depend on how its path is shown. -/
theorem Reads.shown_as {shown : Text} {path : Path} {error : ConversionError}
    (reads : Reads system shown path (.error error)) (other : Text) :
    ∃ error, Reads system other path (.error error) := by
  cases reads with
  | nul nul => exact ⟨_, .nul nul⟩
  | refused plain refused => exact ⟨_, .refused plain refused⟩
  | undecodable plain found fault => exact ⟨_, .undecodable plain found fault⟩

theorem run_writeText (output : Path) (text : Text) (plain : holdsNul output = false) :
    (writeText output text).run system =
      match system.target output with
      | .error error => (.error (.cannotWrite output error), system)
      | .ok location => (.ok (), system.put location (.file (encode text))) := by
  rw [writeText, plain]
  cases opens : system.target output <;>
    simp [FileProgram.run, FileSystem.write_eq, opens, Except.map]

/-- The text is written once it is complete. -/
theorem run_convertSource {src text : Text} (output : Path) (rendered : render src = .ok text) :
    (convertSource src output).run system =
      (((writeText output text).run system).1.map fun _ => text,
        ((writeText output text).run system).2) := by
  rw [convertSource, rendered]
  exact FileProgram.run_bind _ _ _

theorem Converts.run {src : Text} {output : Path} {result : Except ConversionError Text}
    {after : FileSystem} (converts : Converts system src output result after) :
    (convertSource src output).run system = (result, after) := by
  cases converts with
  | malformed failed => rw [convertSource, render_of_parse_error failed, FileProgram.run]
  | nul rendered nul => rw [run_convertSource output rendered, writeText, if_pos nul]; rfl
  | refused rendered plain refused =>
    rw [run_convertSource output rendered, run_writeText output _ plain, refused]
    rfl
  | written rendered plain opens =>
    rw [run_convertSource output rendered, run_writeText output _ plain, opens]
    rfl

theorem exists_converts (system : FileSystem) (src : Text) (output : Path) :
    ∃ result after, Converts system src output result after := by
  rcases read : parse src with error | nodes
  · exact ⟨_, _, .malformed read⟩
  obtain ⟨texts, -, rendered⟩ := render_of_parse read
  by_cases nul : holdsNul output = true
  · exact ⟨_, _, .nul rendered nul⟩
  have plain : holdsNul output = false := by simpa using nul
  rcases opens : system.target output with error | location
  · exact ⟨_, _, .refused rendered plain opens⟩
  · exact ⟨_, _, .written rendered plain opens⟩

theorem run_convertFile_unread {input : Path} {error : ConversionError}
    (reads : Reads system input.toText input (.error error)) (output : Path) :
    (convertFile input output).run system = (.error error, system) := by
  refine (FileProgram.run_bind _ _ _).trans ?_
  rw [reads.run]
  rfl

/-- A source that has been read is converted. -/
theorem run_convertFile {input : Path} {src : Text}
    (reads : Reads system input.toText input (.ok src)) (output : Path) :
    (convertFile input output).run system = (convertSource src output).run system := by
  refine (FileProgram.run_bind _ _ _).trans ?_
  rw [reads.run]

theorem exists_of_convertFile {input output : Path} {text : Text} {after : FileSystem}
    (ran : (convertFile input output).run system = (.ok text, after)) :
    ∃ src, Reads system input.toText input (.ok src) ∧
      Converts system src output (.ok text) after := by
  obtain ⟨result, reads⟩ := exists_reads system input.toText input
  cases result with
  | error error =>
    rw [run_convertFile_unread reads output] at ran
    cases ran
  | ok src =>
    rw [run_convertFile reads output] at ran
    obtain ⟨result, last, converts⟩ := exists_converts system src output
    obtain ⟨rfl, rfl⟩ := Prod.mk.inj (converts.run.symm.trans ran)
    exact ⟨src, reads, converts⟩

end

/-- Why a conversion fails. What comes later counts only where nothing before it has failed. -/
inductive Obstacle (system : FileSystem) (input output : Path) : ConversionError → Prop where
  | unread {error} : Reads system input.toText input (.error error) →
      Obstacle system input output error
  | malformed {src error} : Reads system input.toText input (.ok src) → parse src = .error error →
      render src = .error (.reading error) →
      Obstacle system input output (.malformed (.reading error))
  | nul {src text} : Reads system input.toText input (.ok src) → render src = .ok text →
      holdsNul output = true → Obstacle system input output .nulInPath
  | refused {src text error} : Reads system input.toText input (.ok src) → render src = .ok text →
      holdsNul output = false → system.target output = .error error →
      Obstacle system input output (.cannotWrite output error)

theorem Obstacle.run {system : FileSystem} {input output : Path} {error : ConversionError}
    (obstacle : Obstacle system input output error) :
    (convertFile input output).run system = (.error error, system) := by
  cases obstacle with
  | unread reads => exact run_convertFile_unread reads output
  | malformed reads failed _ => exact (run_convertFile reads output).trans (Converts.malformed failed).run
  | nul reads rendered nul => exact (run_convertFile reads output).trans (Converts.nul rendered nul).run
  | refused reads rendered plain refused =>
    exact (run_convertFile reads output).trans (Converts.refused rendered plain refused).run

/-- Where there is no obstacle, there is a text and a place for it. -/
theorem exists_obstacle_or (system : FileSystem) (input output : Path) :
    (∃ error, Obstacle system input output error) ∨
      ∃ src text location, Reads system input.toText input (.ok src) ∧ render src = .ok text ∧
        holdsNul output = false ∧ system.target output = .ok location := by
  obtain ⟨result, reads⟩ := exists_reads system input.toText input
  cases result with
  | error error => exact .inl ⟨error, .unread reads⟩
  | ok src =>
    obtain ⟨result, after, converts⟩ := exists_converts system src output
    cases converts with
    | malformed failed => exact .inl ⟨_, .malformed reads failed (render_of_parse_error failed)⟩
    | nul rendered nul => exact .inl ⟨_, .nul reads rendered nul⟩
    | refused rendered plain refused => exact .inl ⟨_, .refused reads rendered plain refused⟩
    | written rendered plain opens => exact .inr ⟨src, _, _, reads, rendered, plain, opens⟩

/-- A conversion fails and leaves the file system as it was, or it gives the text of the source that it
has read and replaces the content of the output file by this text, and nothing else. It fails for the
first obstacle in this order: the input cannot be read or decoded, its text is malformed, the output
cannot be opened. The output may be given or not, exist or not, and be the input itself. -/
theorem convertFile_all_or_nothing (system : FileSystem) (input : Path) (output? : Option Path) :
    let output := output?.getD (defaultOutput input)
    let run := (convertFile input output).run system
    ((∃ error, run = (.error error, system)) ∨
      ∃ src text location, Reads system input.toText input (.ok src) ∧ render src = .ok text ∧
        system.target output = .ok location ∧
        run.1 = .ok text ∧ system.Replaced run.2 location (encode text)) ∧
    ∀ error, run.1 = .error error ↔ Obstacle system input output error := by
  intro output run
  have fails {error : ConversionError} (obstacle : Obstacle system input output error) :
      run = (.error error, system) := obstacle.run
  rcases exists_obstacle_or system input output with
    ⟨error, obstacle⟩ | ⟨src, text, location, reads, rendered, plain, opens⟩
  · refine ⟨.inl ⟨error, fails obstacle⟩, fun other => ⟨?_, ?_⟩⟩
    · intro failed
      rw [fails obstacle] at failed
      obtain rfl : error = other := Except.error.inj failed
      exact obstacle
    · intro other
      rw [fails other]
  · have written : run = (.ok text, system.put location (.file (encode text))) :=
      (run_convertFile reads output).trans (Converts.written rendered plain opens).run
    have replaced := FileSystem.replaced_put (FileSystem.locate_of_target opens).2 (encode text)
    rw [written]
    refine ⟨.inr ⟨src, text, location, reads, rendered, opens, rfl, replaced⟩, fun other => ⟨?_, ?_⟩⟩
    · rintro ⟨⟩
    · intro obstacle
      have failed := (fails obstacle).symm.trans written
      cases failed

end SexprCall
