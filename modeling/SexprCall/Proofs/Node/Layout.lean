import SexprCall.Proofs.Cursor.Location
import SexprCall.Proofs.Grammar.Subtree
import SexprCall.Proofs.Reader.Returned

/-! The layout of syntax trees in their source. A form stands between its parentheses and holds its
cells in a row; whatever is between them is spacing and comments. -/
namespace SexprCall

open Grammar

/-- Whole tokens that mean nothing cover these offsets, if there are any. -/
def Gap (src : Text) (start stop : Nat) : Prop :=
  ∃ tokens, tokens <:+: tokenize src ∧ (∀ token ∈ tokens, token.kind.isTrivia = true) ∧
    Tiles start tokens stop

/-- Nodes in a row, with gaps in front of the first, between any two and behind the last. -/
def Spaced (src : Text) : Nat → List Node → Nat → Prop
  | start, [], stop => Gap src start stop
  | start, node :: nodes, stop =>
    Gap src start node.span.start ∧ node.span.Located src ∧ Spaced src node.span.stop nodes stop

theorem Gap.le {src : Text} {start stop : Nat} (gap : Gap src start stop) : start ≤ stop := by
  obtain ⟨tokens, -, -, tiles⟩ := gap
  exact tiles.le

namespace Spaced

variable {src : Text} {start stop : Nat} {nodes : List Node}

theorem le (spaced : Spaced src start nodes stop) : start ≤ stop := by
  induction nodes generalizing start with
  | nil => exact Gap.le spaced
  | cons node nodes ih =>
    obtain ⟨gap, located, rest⟩ := spaced
    exact Nat.le_trans gap.le (Nat.le_trans (Nat.le_of_lt located.rises) (ih rest))

theorem within (spaced : Spaced src start nodes stop) :
    ∀ node ∈ nodes, node.span.Located src ∧ start ≤ node.span.start ∧ node.span.stop ≤ stop := by
  induction nodes generalizing start with
  | nil => simp
  | cons node nodes ih =>
    obtain ⟨gap, located, rest⟩ := spaced
    rw [List.forall_mem_cons]
    refine ⟨⟨located, gap.le, rest.le⟩, fun later member => ?_⟩
    obtain ⟨laterLocated, first, last⟩ := ih rest later member
    have rises := located.rises
    have front := gap.le
    exact ⟨laterLocated, by omega, last⟩

theorem pairwise (spaced : Spaced src start nodes stop) :
    nodes.Pairwise fun node later => node.span.stop ≤ later.span.start := by
  induction nodes generalizing start with
  | nil => exact .nil
  | cons node nodes ih =>
    obtain ⟨-, -, rest⟩ := spaced
    exact .cons (fun later member => (rest.within later member).2.1) (ih rest)

end Spaced

namespace Node

def cells : Node → List Node
  | form head tail _ => head :: tail
  | atom .. | emptyList _ | endOfInput | foreign _ => []

@[simp] theorem cells_ofCells (nodes : List Node) (span : Span) : (ofCells nodes span).cells = nodes := by
  cases nodes <;> rfl

@[simp] theorem span_ofCells (nodes : List Node) (span : Span) : (ofCells nodes span).span = span := by
  cases nodes <;> rfl

/-- The node is where its span says. If it has parentheses, its first and its last character are
these, and its cells are inside, in order and apart. -/
structure LaidOut (src : Text) (node : Node) : Prop where
  located : node.span.Located src
  opening : node.isParenthesized = true → src[node.span.start]? = some '('
  closing : node.isParenthesized = true → src[node.span.stop - 1]? = some ')'
  spaced : node.isParenthesized = true →
    Spaced src (node.span.start + 1) node.cells (node.span.stop - 1)
  inside : ∀ cell ∈ node.cells,
    node.span.start < cell.span.start ∧ cell.span.stop < node.span.stop ∧
      node.span.first < cell.span.first ∧ cell.span.last < node.span.last
  ordered : node.cells.Pairwise fun cell later =>
    cell.span.stop ≤ later.span.start ∧ cell.span.last < later.span.first

theorem laidOut_ofCells {src : Text} {nodes : List Node} {span : Span} (located : span.Located src)
    (opens : src[span.start]? = some '(') (closes : src[span.stop - 1]? = some ')')
    (spaced : Spaced src (span.start + 1) nodes (span.stop - 1)) :
    (ofCells nodes span).LaidOut src := by
  have inside (cell : Node) (member : cell ∈ nodes) : cell.span.Located src ∧
      span.start < cell.span.start ∧ cell.span.stop < span.stop := by
    obtain ⟨cellLocated, first, last⟩ := spaced.within cell member
    have rises := cellLocated.rises
    exact ⟨cellLocated, by omega, by omega⟩
  refine ⟨?_, ?_, ?_, ?_, ?_, ?_⟩
  all_goals simp only [cells_ofCells, span_ofCells]
  · exact located
  · exact fun _ => opens
  · exact fun _ => closes
  · exact fun _ => spaced
  · intro cell member
    obtain ⟨cellLocated, first, last⟩ := inside cell member
    exact ⟨first, last, located.first_lt_first cellLocated first,
      cellLocated.last_lt_last located last⟩
  · refine spaced.pairwise.imp_of_mem fun member later apart => ⟨apart, ?_⟩
    exact (inside _ member).1.last_lt_first (inside _ later).1 apart

theorem laidOut_ofToken {src : Text} {token : Token} (located : token.span.Located src) :
    (ofToken token).LaidOut src :=
  ⟨located, by simp [ofToken, isParenthesized], by simp [ofToken, isParenthesized],
    by simp [ofToken, isParenthesized], by simp [ofToken, cells], by simp [ofToken, cells]⟩

end Node

theorem gap_of_significant {src : Text} {row : List Token} {start stop : Nat}
    (part : row <:+: tokenize src) (tiles : Tiles start row stop) (none : significant row = []) :
    Gap src start stop := by
  refine ⟨row, part, fun token member => ?_, tiles⟩
  simpa using List.filter_eq_nil_iff.1 none token member

/-- A token that means something divides the range in which it is. -/
theorem exists_ranges {src : Text} {row before later : List Token} {token : Token} {start stop : Nat}
    (part : row <:+: tokenize src) (tiles : Tiles start row stop)
    (split : significant row = before ++ token :: later) :
    token ∈ tokenize src ∧ ∃ front back,
      (front <:+: tokenize src ∧ Tiles start front token.span.start ∧ significant front = before) ∧
      (back <:+: tokenize src ∧ Tiles token.span.stop back stop ∧ significant back = later) := by
  obtain ⟨left, right, rfl, rfl, next⟩ := List.filter_eq_append_iff.1 split
  obtain ⟨blank, back, rfl, trivia, -, rfl⟩ := List.filter_eq_cons_iff.1 next
  rw [← List.append_assoc] at part tiles
  obtain ⟨middle, first, rfl, -, last⟩ := Tiles.append_iff.1 tiles
  refine ⟨part.subset (by simp), left ++ blank, back, ⟨?_, first, ?_⟩, ?_, last, rfl⟩
  · exact (List.prefix_append _ _).isInfix.trans part
  · have none : significant blank = [] := List.filter_eq_nil_iff.2 trivia
    rw [significant_append, none, List.append_nil]
    rfl
  · exact ((List.suffix_cons token back).trans (List.suffix_append _ _)).isInfix.trans part

theorem parenthesis_of_mem {src : Text} {token : Token} (member : token ∈ tokenize src) :
    (token.kind = .openParen → token.span.stop = token.span.start + 1 ∧
      src[token.span.start]? = some '(') ∧
    (token.kind = .closeParen → token.span.stop = token.span.start + 1 ∧
      src[token.span.start]? = some ')') := by
  obtain ⟨after, fits⟩ := exists_fits_of_mem_tokenize member
  have located := located_of_mem_tokenize member
  have text : token.text src = token.span.text src := if_neg (kind_of_mem_tokenize member).2
  constructor
  · intro opens
    exact located.single (text.symm.trans (fits.text_parenthesis.1 opens))
  · intro closes
    exact located.single (text.symm.trans (fits.text_parenthesis.2 closes))

/-- Nodes that are derived by the tokens of some range are spaced in it, and all nodes inside of them
are laid out. -/
theorem Grammar.Derives.spaced {src : Text} {nodes : List Node} {tokens row : List Token}
    {start stop : Nat} (derived : Derives nodes tokens) (part : row <:+: tokenize src)
    (tiles : Tiles start row stop) (same : significant row = tokens) :
    Spaced src start nodes stop ∧
      ∀ node ∈ nodes, ∀ path inner, node.at? path = some inner → inner.LaidOut src := by
  induction nodes, tokens, derived using induction_cells generalizing row start stop with
  | nil => exact ⟨gap_of_significant part tiles same, by simp⟩
  | atom token nodes tokens kind _ ih =>
    have split : significant row = [] ++ token :: tokens := same
    obtain ⟨member, front, back, ⟨inFront, first, none⟩, inBack, last, later⟩ :=
      exists_ranges part tiles split
    have located := located_of_mem_tokenize member
    obtain ⟨spaced, laidOut⟩ := ih inBack last later
    refine ⟨⟨gap_of_significant inFront first none, located, spaced⟩,
      List.forall_mem_cons.2 ⟨?_, laidOut⟩⟩
    intro path inner within
    obtain rfl : inner = .ofToken token := Node.eq_of_at? (fun step => by cases step <;> rfl) within
    exact Node.laidOut_ofToken located
  | parenthesized opening cells inside closing nodes tokens opens _ closes _ ihInside ih =>
    have split : significant row = [] ++ opening :: (inside ++ closing :: tokens) := same
    obtain ⟨member, front, rest, ⟨inFront, first, none⟩, inRest, beyond, remains⟩ :=
      exists_ranges part tiles split
    obtain ⟨member', middle, back, ⟨inMiddle, second, insides⟩, inBack, last, later⟩ :=
      exists_ranges inRest beyond remains
    obtain ⟨stop, paren⟩ := (parenthesis_of_mem member).1 opens
    obtain ⟨stop', paren'⟩ := (parenthesis_of_mem member').2 closes
    obtain ⟨spacedInside, laidOutInside⟩ := ihInside inMiddle second insides
    obtain ⟨spaced, laidOut⟩ := ih inBack last later
    have located := (located_of_mem_tokenize member).union (located_of_mem_tokenize member') second.le
    have whole : (Node.ofCells cells (opening.span.union closing.span)).LaidOut src := by
      refine Node.laidOut_ofCells located paren ?_ ?_
      · rwa [Span.union_stop, stop', Nat.add_sub_cancel]
      · rwa [Span.union_start, Span.union_stop, stop', Nat.add_sub_cancel, ← stop]
    refine ⟨⟨?_, ?_, ?_⟩, List.forall_mem_cons.2 ⟨?_, laidOut⟩⟩
    · rw [Node.span_ofCells]
      exact gap_of_significant inFront first none
    · rw [Node.span_ofCells]
      exact located
    · rw [Node.span_ofCells]
      exact spaced
    · intro path inner within
      cases path with
      | nil =>
        obtain rfl := Option.some.inj within
        exact whole
      | cons step path =>
        obtain ⟨cell, found, further⟩ := Node.at?_cons_eq_some_iff.1 within
        exact laidOutInside cell (Node.mem_of_child?_ofCells found) path inner further

namespace Reader

/-- A node that a reader returned, whatever calls and errors came before, is laid out in the source with
all nodes inside of it: forms nest no deeper than allowed, stand between their parentheses, and hold
their cells in order, with nothing but whole spacing and comment tokens around each cell. -/
theorem Gives.laidOut {src : Text} {node : Node} (gives : Gives src node) :
    node.depth ≤ 128 ∧
    (∀ step path inner, node.at? (step :: path) = some inner → inner ≠ .endOfInput) ∧
    ∀ path inner, node.at? path = some inner → inner ≠ .endOfInput → inner.LaidOut src := by
  by_cases ended : node = .endOfInput
  · subst ended
    refine ⟨by decide, ?_, ?_⟩
    · intro step path inner within
      obtain ⟨child, found, -⟩ := Node.at?_cons_eq_some_iff.1 within
      cases step <;> cases found
    · intro path inner within more
      exact absurd (Node.eq_of_at? (fun step => by cases step <;> rfl) within) more
  · obtain ⟨before, used, after, nodes, whole, derived, member, shallow⟩ := gives.exists_derives ended
    have tiles := tiles_tokenize src
    rw [whole] at tiles
    obtain ⟨start, -, rest⟩ := Tiles.append_iff.1 tiles
    obtain ⟨stop, covered, -⟩ := Tiles.append_iff.1 rest
    have part : used <:+: tokenize src := ⟨before, after, by rw [whole, List.append_assoc]⟩
    obtain ⟨-, laidOut⟩ := derived.spaced part covered rfl
    have all := laidOut node member
    refine ⟨shallow, ?_, fun path inner within _ => all path inner within⟩
    rintro step path _ within rfl
    exact absurd (all _ _ within).located.rises (Nat.lt_irrefl 0)

/-- A form behind an error, with a comment that holds a parenthesis, an empty list and a literal across
two lines. -/
theorem laidOut_after_error :
    let src : Text := "x(f ;(\n () \"\n\")".toList
    let word : Token := ⟨.identifier, ⟨1, 3, 1, 3, 2, 3⟩, 1⟩
    let quoted : Token := ⟨.literal, ⟨2, 5, 3, 1, 11, 14⟩, 3⟩
    let node : Node := .form (.ofToken word) [.emptyList ⟨2, 2, 2, 3, 8, 10⟩, .ofToken quoted]
      ⟨1, 2, 3, 2, 1, 15⟩
    Gives src node ∧ node.depth ≤ 128 ∧
      Spaced src 2 [.ofToken word, .emptyList ⟨2, 2, 2, 3, 8, 10⟩, .ofToken quoted] 14 ∧
      Gap src 9 9 := by
  intro src word quoted node
  have stopped : (ofText src).readAll.reader = ⟨.past src 1, []⟩ :=
    (readAll_past 0 (Nat.zero_le src.length) []).2.2
  have read : (readAll ⟨.past src 1, []⟩).nodes = [node] := (@readAll_past src 1 (by decide) []).1
  have gives : Gives src node := by
    refine ⟨[.rest, .rest], _, List.mem_cons_of_mem _ List.mem_cons_self, ?_⟩
    simp [stopped, read, Reply.given]
  obtain ⟨depth, -, laidOut⟩ := gives.laidOut
  have whole : node.LaidOut src := laidOut [] node rfl (by simp [node])
  have inner : (Node.emptyList ⟨2, 2, 2, 3, 8, 10⟩).LaidOut src :=
    laidOut [.tail 0] _ rfl (by simp)
  exact ⟨gives, depth, whole.spaced rfl, inner.spaced rfl⟩

end Reader
end SexprCall
