import SexprCall.Proofs.Command.Contract
import SexprCall.Proofs.File.Normal

/-! The output of runs that name none. It is the one that a conversion without an output has. -/
namespace SexprCall

namespace Command

/-- Converting in a run leaves the same files behind as converting alone. -/
theorem run_convert_files (verbose : Bool) (input output : Path) (system : FileSystem) :
    ((convert verbose input output).run system).2 = ((convertFile input output).run system).2 := by
  obtain ⟨result, reads⟩ := exists_reads system input.toText input
  cases result with
  | error error => rw [run_convert_unread reads, run_convertFile_unread reads]
  | ok src =>
    obtain ⟨result, after, converts⟩ := exists_converts system src output
    rw [run_convert reads converts, run_convertFile reads, converts.run]

/-- A command line that names no output has the default one. -/
theorem run_default_output {rules : Rules} {arguments : List Text} {text : Text}
    (named : inputOf rules arguments = some text) (free : outputValues rules arguments = [])
    (transpile : .tokens ∉ asked rules arguments) (system : FileSystem) :
    ((run arguments rules).run system).2 =
      ((convertFile (.ofText text) (defaultOutput (.ofText text))).run system).2 := by
  obtain ⟨settings, parsed, given⟩ := exists_settings named
  have follows := follows_of_parse parsed
  have tokens : settings.tokens = false := by
    simpa using mt follows.tokens.1 transpile
  have output : settings.output = none := by rw [follows.output, free, List.getLast?_nil]
  rw [run, parsed]
  simp only [runSettings, given, tokens, Bool.false_eq_true, if_false, outputPath, output]
  exact run_convert_files _ _ _ system

end Command

/-- The default output of a path is one proper name in the current directory, made of its stem and the
output ending. It can be had from the text of the path or from its normal form, so runs of the program and
conversions choose the same file. It is the input itself if this is a name in the current directory with
something before the output ending, and it is its own default output unless the path has no name. -/
theorem defaultOutput_confined (text : Text) :
    let path := Path.ofText text
    let output := defaultOutput path
    (∃ name, OutputName name ∧ output = ⟨.current, [name]⟩ ∧ output.toText = name) ∧
      defaultOutput (.ofText path.toText) = output ∧
      (∀ rules arguments system, Command.inputOf rules arguments = some text →
        Command.outputValues rules arguments = [] → .tokens ∉ Command.asked rules arguments →
        ((Command.run arguments rules).run system).2 =
          ((convertFile (.ofText path.toText) (defaultOutput (.ofText path.toText))).run system).2) ∧
      (output = path ↔ ∃ stem, stem ≠ [] ∧ path = ⟨.current, [stem ++ outputExtension]⟩) ∧
      (defaultOutput output = output ↔ ∃ segment ∈ Path.segments text, segment ≠ [] ∧ segment ≠ ['.']) := by
  intro path output
  have normal : path.Normal := Path.normal_ofText text
  have same : Path.ofText path.toText = path := Path.ofText_toText normal
  refine ⟨⟨path.stem ++ outputExtension, outputName_append (slash_not_mem_stem normal), rfl, ?_⟩, ?_, ?_,
    defaultOutput_eq_self_iff normal, ?_⟩
  · simp [output, defaultOutput, Path.toText, Origin.slashes, Text.joinWith]
  · rw [same]
  · intro rules arguments system named free transpile
    rw [same]
    exact Command.run_default_output named free transpile system
  · rw [defaultOutput_defaultOutput_iff, Ne, Path.stem_eq_nil_iff normal]
    simp [path, Path.ofText, Path.isName]

/-- A way to the input with empty names and a dot, and a name with two dots. -/
theorem defaultOutput_confined_dots :
    let text := ".//d//a.b.lisp".toList
    let input : Path := ⟨.current, [['d'], "a.b.lisp".toList]⟩
    let system := ((FileSystem.mk [] []).put [['d']] .directory).put [['d'], "a.b.lisp".toList]
      (.file (Text.Utf8.encode "(f)".toList))
    Command.inputOf .late [text] = some text ∧ Command.outputValues .late [text] = [] ∧
      .tokens ∉ Command.asked .late [text] ∧
      ((Command.run [text] .late).run system).2 =
        ((convertFile input ⟨.current, ["a.b.py".toList]⟩).run system).2 := by
  intro text input system
  have named : Command.inputOf .late [text] = some text := by decide
  have free : Command.outputValues .late [text] = [] := by decide
  have transpile : .tokens ∉ Command.asked .late [text] := by decide
  exact ⟨named, free, transpile,
    (defaultOutput_confined text).2.2.1 .late [text] system named free transpile⟩

end SexprCall
