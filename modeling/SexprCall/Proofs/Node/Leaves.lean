import SexprCall.Node.Dump
import SexprCall.Proofs.Grammar.Parsing
import SexprCall.Proofs.Text.Quoting

/-! The leaves of syntax trees. A dump has one line for each of them, in the order of the tokens they come
from, so it can be had from the tokens without a tree. -/
namespace SexprCall

open Grammar Text

theorem TokenKind.printable_name (kind : TokenKind) : Printable kind.name := by
  cases kind <;> decide

theorem Span.printable_corners (span : Span) : Printable span.corners := by
  have number := printable_twoDigits
  have comma : Printable ", ".toList := by decide
  have arrow : Printable " => ".toList := by decide
  have colon : Printable ": ".toList := by decide
  exact (number _).append comma |>.append (number _) |>.append arrow |>.append (number _)
    |>.append comma |>.append (number _) |>.append colon

theorem Token.printable_describe (src : Text) (token : Token) : Printable (token.describe src) :=
  .append (.append token.span.printable_corners token.kind.printable_name)
    (.cons (by decide) (printable_quoted _))

namespace Node

theorem dumpLines_ne_nil (src : Text) : ∀ node : Node, dumpLines src node ≠ []
  | form head _ _ => List.append_ne_nil_of_left_ne_nil (dumpLines_ne_nil src head) _
  | atom .. | emptyList _ | endOfInput | foreign _ => List.cons_ne_nil _ _

mutual

theorem printable_dumpLines (src : Text) : ∀ node : Node, ∀ line ∈ dumpLines src node, Printable line
  | form head tail _ =>
    List.forall_mem_append.2 ⟨printable_dumpLines src head, printable_dumpLinesAll src tail⟩
  | atom _ token _ => List.forall_mem_singleton.2 (token.printable_describe src)
  | emptyList span => List.forall_mem_singleton.2 (span.printable_corners.append (by decide))
  | endOfInput | foreign _ => List.forall_mem_singleton.2 (by decide)

theorem printable_dumpLinesAll (src : Text) :
    ∀ nodes : List Node, ∀ line ∈ dumpLinesAll src nodes, Printable line
  | [] => List.forall_mem_nil _
  | node :: nodes =>
    List.forall_mem_append.2 ⟨printable_dumpLines src node, printable_dumpLinesAll src nodes⟩

end

/-- No leaf takes up more than a line. -/
theorem splitOn_dump (src : Text) (node : Node) :
    (node.dump src).splitOn '\n' = dumpLines src node :=
  List.splitOn_intercalate '\n' (fun line member => (printable_dumpLines src node line member).feed_not_mem)
    (dumpLines_ne_nil src node)

end Node

def emptyListLine (opening closing : Token) : Text :=
  twoDigits opening.span.startRow ++ ", ".toList ++ twoDigits opening.span.startCol ++
    " => ".toList ++ twoDigits closing.span.endRow ++ ", ".toList ++ twoDigits closing.span.endCol ++
    ": EmptyList '()'".toList

/-- The line of the leaf that begins with a token, which depends on the token after it. -/
def leafLine? (src : Text) (token : Token) (next? : Option Token) : Option Text :=
  match token.kind with
  | .openParen => next?.bind fun next =>
    if next.kind = .closeParen then some (emptyListLine token next) else none
  | .closeParen => none
  | _ => some (token.describe src)

def leafLines (src : Text) : List Token → List Text
  | [] => []
  | token :: tokens => (leafLine? src token tokens.head?).toList ++ leafLines src tokens

theorem emptyListLine_eq (opening closing : Token) :
    emptyListLine opening closing =
      (opening.span.union closing.span).corners ++ "EmptyList '()'".toList := by
  simp only [emptyListLine, Span.corners, Span.union, List.append_assoc]
  rfl

theorem leafLines_openParen {src : Text} {token next : Token} (opens : token.kind = .openParen)
    (more : next.kind ≠ .closeParen) (tokens : List Token) :
    leafLines src (token :: next :: tokens) = leafLines src (next :: tokens) := by
  simp [leafLines, leafLine?, opens, more]

theorem leafLines_closeParen {src : Text} {token : Token} (closes : token.kind = .closeParen)
    (tokens : List Token) : leafLines src (token :: tokens) = leafLines src tokens := by
  simp [leafLines, leafLine?, closes]

theorem leafLines_emptyList {src : Text} {opening closing : Token} (opens : opening.kind = .openParen)
    (closes : closing.kind = .closeParen) (tokens : List Token) :
    leafLines src (opening :: closing :: tokens) =
      emptyListLine opening closing :: leafLines src tokens := by
  simp [leafLines, leafLine?, opens, closes]

theorem leafLines_atom {src : Text} {token : Token} (kind : token.kind ∈ atomKinds)
    (tokens : List Token) :
    leafLines src (token :: tokens) = token.describe src :: leafLines src tokens := by
  have opens : token.kind ≠ .openParen := by
    intro opens
    exact Derives.not_mem_atomKinds_openParen (opens ▸ kind)
  have closes : token.kind ≠ .closeParen := by
    intro closes
    exact Derives.not_mem_atomKinds_closeParen (closes ▸ kind)
  have line : leafLine? src token tokens.head? = some (token.describe src) := by
    unfold leafLine?
    split <;> first | contradiction | rfl
  rw [leafLines, line]
  rfl

/-- The tokens that derive nodes give the lines of their dumps, whatever tokens follow. -/
theorem Grammar.Derives.leafLines_append {src : Text} {nodes : List Node} {tokens : List Token}
    (derived : Derives nodes tokens) (rest : List Token) :
    leafLines src (tokens ++ rest) = Node.dumpLinesAll src nodes ++ leafLines src rest := by
  induction derived generalizing rest with
  | nil => rfl
  | symbol kind _ ih =>
    rw [List.cons_append, leafLines_atom (List.mem_append_left _ kind), ih]
    rfl
  | literal kind _ ih =>
    rw [List.cons_append, leafLines_atom (List.mem_append_right _ kind), ih]
    rfl
  | emptyList opens closes _ ih =>
    rw [List.cons_append, List.cons_append, leafLines_emptyList opens closes, ih, emptyListLine_eq]
    rfl
  | @form opening head tail inside closing nodes tokens opens cells closes _ ihInside ih =>
    have enters (rest : List Token) :
        leafLines src (opening :: (inside ++ rest)) = leafLines src (inside ++ rest) := by
      cases inside with
      | nil => cases cells.eq_nil
      | cons first inside => exact leafLines_openParen opens cells.kind_head (inside ++ rest)
    calc leafLines src (opening :: (inside ++ closing :: tokens) ++ rest)
        = leafLines src (inside ++ closing :: (tokens ++ rest)) := by
          rw [List.cons_append, List.append_assoc, List.cons_append, enters]
      _ = Node.dumpLinesAll src (head :: tail) ++ (Node.dumpLinesAll src nodes ++ leafLines src rest) := by
          rw [ihInside, leafLines_closeParen closes, ih]
      _ = Node.dumpLinesAll src (.form head tail _ :: nodes) ++ leafLines src rest :=
          (List.append_assoc _ _ _).symm

/-- The dumps of all nodes of a source, one after another, have one line for each token that means
something and is no parenthesis, and one for each pair of parentheses with nothing in between, all in the
order of the tokens. None of these lines has a character that would break it. -/
theorem dumps_eq_leafLines {src : Text} {nodes : List Node} (read : parse src = .ok nodes) :
    nodes.flatMap (fun node => (node.dump src).splitOn '\n') =
        leafLines src (significant (tokenize src)) ∧
      ∀ line ∈ leafLines src (significant (tokenize src)), Printable line := by
  obtain ⟨derived, -⟩ := derives_of_parse read
  have lines : leafLines src (significant (tokenize src)) = Node.dumpLinesAll src nodes := by
    simpa only [List.append_nil, leafLines] using @Derives.leafLines_append src _ _ derived []
  simp only [lines, Node.splitOn_dump, Node.dumpLinesAll_eq_flatMap, true_and]
  rw [← Node.dumpLinesAll_eq_flatMap]
  exact Node.printable_dumpLinesAll src nodes

/-- A literal with a line feed has one line, and so has an empty list across two lines with a comment that
holds a parenthesis. -/
theorem dumps_eq_leafLines_feed :
    let src := "(f \"\n\" (;)\n))".toList
    ∃ nodes, parse src = .ok nodes ∧
      nodes.flatMap (fun node => (node.dump src).splitOn '\n') =
        ["01, 02 => 01, 02: Identifier 'f'", "01, 04 => 02, 01: Literal '\"\\n\"'",
          "02, 03 => 03, 01: EmptyList '()'"].map String.toList := by
  intro src
  let word : Token := ⟨.identifier, ⟨1, 2, 1, 2, 1, 2⟩, 1⟩
  let quoted : Token := ⟨.literal, ⟨1, 4, 2, 1, 3, 6⟩, 3⟩
  have read : parse src = .ok [.form (.ofToken word) [.ofToken quoted, .emptyList ⟨2, 3, 3, 1, 7, 12⟩]
      ⟨1, 1, 3, 2, 0, 13⟩] := by
    rw [parse_eq_feed]
    rfl
  refine ⟨_, read, ?_⟩
  rw [(dumps_eq_leafLines read).1]
  decide

end SexprCall
