import SexprCall.Proofs.File.Conversion
import SexprCall.Proofs.Text.Decoding
import SexprCall.Proofs.Text.LineEndings

/-! What reading a source file gives for every content of the file. Contents that encode no text are
refused with a fault that names the bytes at which they stop encoding one. -/
namespace SexprCall

open Text.Utf8 (Bytes Decodes Extends Valid decode encode)

/-- A file is read if and only if its bytes encode a text, which is then the only one. It is given with one
line feed for each pair of a return and a feed and for each other return. Bytes that encode no text are
refused with a fault that is true of them. -/
theorem readSource_decodes {system : FileSystem} {path : Path} {bytes : Bytes}
    (plain : holdsNul path = false) (found : system.read path = .ok bytes) (shown : Text) :
    let run := (readSource shown path).run system
    run.2 = system ∧
      (∀ src, run.1 = .ok src ↔
        ∃ text, encode text = bytes ∧ src = Text.feedReturns (Text.joinPairs text)) ∧
      (Valid bytes → ∃! text, encode text = bytes) ∧
      (¬ Valid bytes → ∃ fault, run.1 = .error (.cannotRead shown (.decoding fault)) ∧
        fault.Tells bytes) := by
  intro run
  have decodes := Text.Utf8.decodes bytes
  have unique : Valid bytes → ∃! text, encode text = bytes := by
    rintro ⟨text, encoded⟩
    exact ⟨text, encoded, fun other same => Text.Utf8.encode_injective (same.trans encoded.symm)⟩
  rcases decoded : decode bytes with fault | text
  · have ran : run = (.error (.cannotRead shown (.decoding fault)), system) :=
      (Reads.undecodable plain found decoded).run
    have invalid : ¬ Valid bytes := by
      rintro ⟨text, encoded⟩
      cases decoded.symm.trans (Text.Utf8.decode_eq_ok_iff.2 encoded)
    rw [decoded] at decodes
    cases decodes with
    | fault tells =>
      rw [ran]
      refine ⟨rfl, fun src => ⟨nofun, ?_⟩, unique, fun _ => ⟨fault, rfl, tells⟩⟩
      rintro ⟨text, encoded, -⟩
      exact absurd ⟨text, encoded⟩ invalid
  · have ran : run = (.ok text.unifyNewlines, system) := (Reads.text plain found decoded).run
    have encoded : encode text = bytes := Text.Utf8.decode_eq_ok_iff.1 decoded
    rw [ran, Text.unifyNewlines_eq]
    refine ⟨rfl, fun src => ⟨?_, ?_⟩, unique, fun invalid => absurd ⟨text, encoded⟩ invalid⟩
    · rintro ⟨⟩
      exact ⟨text, encoded, rfl⟩
    · rintro ⟨other, same, rfl⟩
      rw [Text.Utf8.encode_injective (same.trans encoded.symm)]

/-- The second character is broken off by a parenthesis. -/
theorem readSource_decodes_cut :
    let path : Path := ⟨.current, [['a']]⟩
    let system := (FileSystem.mk [] []).put [['a']] (.file [0x61, 0xE2, 0x82, 0x28])
    ((readSource path.toText path).run system).1 =
        .error (.cannotRead ['a'] (.decoding ⟨1, 2, 0xE2, .invalidContinuation⟩)) ∧
      Valid [0x61] ∧ Extends [0x61, 0xE2, 0x82] ∧ ¬ Extends [0x61, 0xE2, 0x82, 0x28] := by
  intro path system
  have failed : ((readSource path.toText path).run system).1 =
      .error (.cannotRead ['a'] (.decoding ⟨1, 2, 0xE2, .invalidContinuation⟩)) := rfl
  have found : system.read path = .ok [0x61, 0xE2, 0x82, 0x28] := rfl
  obtain ⟨-, accepts, -, refuses⟩ := readSource_decodes (by decide) found path.toText
  have invalid : ¬ Valid [0x61, 0xE2, 0x82, 0x28] := by
    rintro ⟨text, encoded⟩
    cases failed.symm.trans ((accepts _).2 ⟨text, encoded, rfl⟩)
  obtain ⟨fault, same, tells⟩ := refuses invalid
  cases failed.symm.trans same
  exact ⟨failed, tells.before, (tells.invalidContinuation rfl).2⟩

end SexprCall
