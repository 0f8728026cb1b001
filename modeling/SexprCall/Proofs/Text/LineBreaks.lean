import SexprCall.Proofs.Text.Quoting

/-! Lines of texts in general: not a line feed alone ends one. Printable texts are single lines. -/
namespace SexprCall.Text

/-- The characters that end a line: line feed, line tabulation, form feed, carriage return, the separators
of files, groups and records, next line, and the separators of lines and paragraphs. -/
def lineBreaks : List Char :=
  ['\n', '\x0b', '\x0c', '\r', '\x1c', '\x1d', '\x1e', '\x85', '\u2028', '\u2029']

/-- The lines of a text without what ends them. A return and a feed end one line together, and nothing
after the last line break is no line. -/
def splitLines : Text → List Text
  | [] => []
  | '\r' :: '\n' :: rest => [] :: splitLines rest
  | c :: rest =>
    if c ∈ lineBreaks then [] :: splitLines rest
    else match splitLines rest with
      | [] => [[c]]
      | line :: lines => (c :: line) :: lines

theorem Printable.unbroken {text : Text} (printable : Printable text) :
    ∀ c ∈ text, c ∉ lineBreaks := by
  have breaks : lineBreaks.all (!isPrintable ·) = true := by decide +kernel
  intro c member broken
  have hidden := List.all_eq_true.1 breaks c broken
  rw [printable c member] at hidden
  cases hidden

theorem splitLines_append {text : Text} (unbroken : ∀ c ∈ text, c ∉ lineBreaks) (rest : Text) :
    splitLines (text ++ '\n' :: rest) = text :: splitLines rest := by
  induction text with
  | nil =>
    rw [List.nil_append, splitLines, if_pos (by decide)]
    simp
  | cons c text ih =>
    rw [List.forall_mem_cons] at unbroken
    rw [List.cons_append, splitLines, if_neg unbroken.1, ih unbroken.2]
    rintro rest rfl
    exact absurd unbroken.1 (by decide)

/-- Lines that nothing breaks are found again in the text of all of them. -/
theorem splitLines_flatMap {lines : List Text} (unbroken : ∀ line ∈ lines, ∀ c ∈ line, c ∉ lineBreaks) :
    splitLines (lines.flatMap (· ++ ['\n'])) = lines := by
  induction lines with
  | nil => rfl
  | cons line lines ih =>
    rw [List.forall_mem_cons] at unbroken
    rw [List.flatMap_cons, List.append_assoc, List.singleton_append, splitLines_append unbroken.1,
      ih unbroken.2]

end SexprCall.Text
