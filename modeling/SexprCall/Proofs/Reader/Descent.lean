import SexprCall.Proofs.Reader.Feed

/-! Reading by recursive descent. There is no stack of open forms here, only their number, which is
raised before a form is read and lowered afterwards, whether that went well or not. The rules are
told for one call after another. -/
namespace SexprCall

structure Descent where
  cursor : Cursor
  depth : Nat

namespace Descent

open Grammar

inductive Skips : Cursor → Token → Cursor → Prop where
  | means {cursor after token} : cursor.next = (token, after) → token.kind.isTrivia = false →
      Skips cursor token after
  | trivia {cursor middle after skipped token} : cursor.next = (skipped, middle) →
      skipped.kind.isTrivia = true → Skips middle token after → Skips cursor token after

inductive Expects : Descent → Except ReadError Token → Descent → Prop where
  | allowed {before token cursor} : Skips before.cursor token cursor → token.kind ∈ formKinds →
      Expects before (.ok token) ⟨cursor, before.depth⟩
  | refused {before token cursor} : Skips before.cursor token cursor → token.kind ∉ formKinds →
      Expects before (.error (.unexpected formKinds token)) ⟨cursor, before.depth⟩

mutual

/-- A form from its parenthesis on. The number of open forms is checked before anything is read. -/
inductive ReadsForm : Token → Descent → Except ReadError Node → Descent → Prop where
  | tooDeep {opening before} : maxDepth < before.depth + 1 →
      ReadsForm opening before (.error (.tooDeep opening)) ⟨before.cursor, before.depth + 1 - 1⟩
  | reads {opening before result after} : before.depth + 1 ≤ maxDepth →
      ReadsInside opening ⟨before.cursor, before.depth + 1⟩ result after →
      ReadsForm opening before result ⟨after.cursor, after.depth - 1⟩

inductive ReadsInside : Token → Descent → Except ReadError Node → Descent → Prop where
  | fails {opening before error after} : Expects before (.error error) after →
      ReadsInside opening before (.error error) after
  | emptyList {opening before closing after} : Expects before (.ok closing) after →
      closing.kind = .closeParen →
      ReadsInside opening before (.ok (.emptyList (opening.span.union closing.span))) after
  | headFails {opening before first middle error after} : Expects before (.ok first) middle →
      first.kind ≠ .closeParen → ReadsCell first middle (.error error) after →
      ReadsInside opening before (.error error) after
  | tailFails {opening before first middle head later error after} :
      Expects before (.ok first) middle → first.kind ≠ .closeParen →
      ReadsCell first middle (.ok head) later → ReadsTail later (.error error) after →
      ReadsInside opening before (.error error) after
  | form {opening before first middle head later tail closing after} :
      Expects before (.ok first) middle → first.kind ≠ .closeParen →
      ReadsCell first middle (.ok head) later → ReadsTail later (.ok (tail, closing)) after →
      ReadsInside opening before (.ok (.form head tail (opening.span.union closing.span))) after

inductive ReadsTail : Descent → Except ReadError (List Node × Token) → Descent → Prop where
  | fails {before error after} : Expects before (.error error) after →
      ReadsTail before (.error error) after
  | closes {before closing after} : Expects before (.ok closing) after →
      closing.kind = .closeParen → ReadsTail before (.ok ([], closing)) after
  | cellFails {before first middle error after} : Expects before (.ok first) middle →
      first.kind ≠ .closeParen → ReadsCell first middle (.error error) after →
      ReadsTail before (.error error) after
  | restFails {before first middle cell later error after} : Expects before (.ok first) middle →
      first.kind ≠ .closeParen → ReadsCell first middle (.ok cell) later →
      ReadsTail later (.error error) after → ReadsTail before (.error error) after
  | cons {before first middle cell later cells closing after} :
      Expects before (.ok first) middle → first.kind ≠ .closeParen →
      ReadsCell first middle (.ok cell) later → ReadsTail later (.ok (cells, closing)) after →
      ReadsTail before (.ok (cell :: cells, closing)) after

inductive ReadsCell : Token → Descent → Except ReadError Node → Descent → Prop where
  | form {token before result after} : token.kind = .openParen →
      ReadsForm token before result after → ReadsCell token before result after
  | atom {token before} : token.kind ≠ .openParen →
      ReadsCell token before (.ok (.ofToken token)) before

end

inductive ReadsNode : Descent → Except ReadError Node → Descent → Prop where
  | ended {before token cursor} : Skips before.cursor token cursor → token.kind = .endOfInput →
      ReadsNode before (.ok .endOfInput) ⟨cursor, before.depth⟩
  | unsupported {before token cursor} : Skips before.cursor token cursor →
      token.kind ≠ .endOfInput → token.kind ≠ .openParen →
      ReadsNode before (.error (.unsupported token)) ⟨cursor, before.depth⟩
  | form {before token cursor result after} : Skips before.cursor token cursor →
      token.kind = .openParen → ReadsForm token ⟨cursor, before.depth⟩ result after →
      ReadsNode before result after

inductive ReadsAll : Descent → List Node → Option ReadError → Descent → Prop where
  | fails {before error after} : ReadsNode before (.error error) after →
      ReadsAll before [] (some error) after
  | ended {before after} : ReadsNode before (.ok .endOfInput) after → ReadsAll before [] none after
  | node {before node middle nodes error? after} : ReadsNode before (.ok node) middle →
      node ≠ .endOfInput → ReadsAll middle nodes error? after →
      ReadsAll before (node :: nodes) error? after

end Descent
end SexprCall
