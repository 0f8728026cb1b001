import SexprCall.Proofs.Reader.Recursion

/-! Recursive descent and the reader that keeps a stack of open forms give the same answers, and leave
the cursor in the same place. -/
namespace SexprCall

namespace Reader

/-- The answer of a call, without the tokens it used up. -/
def answer (reader : Reader) : Except ReadError (Option Node) × Reader :=
  (reader.pull.outcome, reader.pull.reader)

/-- The answer of a call after its last token. -/
def settle (cursor : Cursor) : Except ReadError Progress → Except ReadError (Option Node) × Reader
  | .error error => (.error error, ⟨cursor, []⟩)
  | .ok (.complete node) => (.ok (some node), ⟨cursor, []⟩)
  | .ok (.going opened) => answer ⟨cursor, opened⟩

theorem answer_of_next?_none {cursor : Cursor} (opened : List OpenForm)
    (used : cursor.next? = none) :
    answer ⟨cursor, opened⟩ = (Progress.finish opened (.atEnd cursor.position), ⟨cursor, []⟩) := by
  rw [answer, pull_of_rest_nil (Cursor.next?_eq_none.1 used)]

theorem answer_of_next? {cursor after : Cursor} {token : Token} (opened : List OpenForm)
    (found : cursor.next? = some (token, after)) :
    answer ⟨cursor, opened⟩ = settle after (Progress.take opened token) := by
  rw [answer, pull_of_next? found]
  rcases Progress.take opened token with error | (opened | node) <;> rfl

end Reader

/-- A node is complete: it is the next cell of the innermost open form, if there is one. -/
def Progress.put (opened : List OpenForm) (node : Node) : Progress :=
  match opened with
  | [] => .complete node
  | form :: outer => .going (form.add node :: outer)

namespace Descent

open Grammar Reader

theorem Skips.agrees {cursor after : Cursor} {token : Token} (skips : Skips cursor token after)
    (opened : List OpenForm) :
    answer ⟨cursor, opened⟩ =
      if token.kind = .endOfInput then (Progress.finish opened token, ⟨after, []⟩)
      else settle after (Progress.take opened token) := by
  induction skips with
  | @means cursor after token next =>
    cases found : cursor.next? with
    | none =>
      obtain ⟨rfl, rfl⟩ := Prod.mk.inj ((Cursor.next_of_next?_none found).symm.trans next)
      exact answer_of_next?_none opened found
    | some pair =>
      obtain ⟨rfl, rfl⟩ := Prod.mk.inj ((Cursor.next_of_next? found).symm.trans next)
      rw [if_neg (Cursor.kind_of_next? found)]
      exact answer_of_next? opened found
  | @trivia cursor middle after skipped token next trivia _ ih =>
    cases found : cursor.next? with
    | none =>
      obtain ⟨rfl, -⟩ := Prod.mk.inj ((Cursor.next_of_next?_none found).symm.trans next)
      simp [Token.atEnd, TokenKind.isTrivia] at trivia
    | some pair =>
      obtain ⟨rfl, rfl⟩ := Prod.mk.inj ((Cursor.next_of_next? found).symm.trans next)
      rw [answer_of_next? opened found, Progress.take_of_taken (.trivia trivia)]
      exact ih

theorem Skips.means_token {cursor after : Cursor} {token : Token}
    (skips : Skips cursor token after) : token.kind.isTrivia = false := by
  induction skips with
  | means _ means => exact means
  | trivia _ _ _ ih => exact ih

/-- Inside a form the answer is that of the expected token, or the error. -/
theorem Expects.agrees {before after : Descent} {result : Except ReadError Token}
    (expects : Expects before result after) (form : OpenForm) (outer : List OpenForm) :
    after.depth = before.depth ∧
    answer ⟨before.cursor, form :: outer⟩ =
      settle after.cursor (result.bind (Progress.take (form :: outer))) := by
  cases expects with
  | @allowed token cursor skips allowed =>
    refine ⟨rfl, ?_⟩
    have more : token.kind ≠ .endOfInput := by
      intro ended
      simp [ended, formKinds] at allowed
    rw [skips.agrees, if_neg more]
    rfl
  | @refused token cursor skips refused =>
    refine ⟨rfl, ?_⟩
    rw [skips.agrees]
    split
    · rfl
    · rw [Progress.take_of_taken (.unexpected skips.means_token refused)]
      rfl

theorem take_closeParen {token : Token} (closes : token.kind = .closeParen) (form : OpenForm)
    (outer : List OpenForm) :
    Progress.take (form :: outer) token = .ok (.put outer (form.close token)) := by
  cases outer with
  | nil => exact Progress.take_of_taken (.completes closes)
  | cons parent outer => exact Progress.take_of_taken (.closes closes)

theorem Expects.mem_formKinds {before after : Descent} {token : Token}
    (expects : Expects before (.ok token) after) : token.kind ∈ formKinds := by
  cases expects with
  | allowed _ allowed => exact allowed

theorem mem_atomKinds {kind : TokenKind} (allowed : kind ∈ formKinds) (opens : kind ≠ .openParen)
    (closes : kind ≠ .closeParen) : kind ∈ atomKinds := by
  cases kind <;> simp_all [formKinds, atomKinds, symbolKinds, literalKinds]

/-- The stack comes to the same answer as the form that was read, from its parenthesis on. -/
def FormAgrees (opening : Token) (before : Descent) (result : Except ReadError Node)
    (after : Descent) : Prop :=
  opening.kind = .openParen → ∀ opened : List OpenForm, opened.length = before.depth →
    after.depth = before.depth ∧
    settle before.cursor (Progress.take opened opening) =
      settle after.cursor (result.map (Progress.put opened))

def InsideAgrees (opening : Token) (before : Descent) (result : Except ReadError Node)
    (after : Descent) : Prop :=
  ∀ opened : List OpenForm, opened.length + 1 = before.depth →
    after.depth = before.depth ∧
    answer ⟨before.cursor, ⟨opening, []⟩ :: opened⟩ =
      settle after.cursor (result.map (Progress.put opened))

def TailAgrees (before : Descent) (result : Except ReadError (List Node × Token))
    (after : Descent) : Prop :=
  ∀ (form : OpenForm) (opened : List OpenForm), opened.length + 1 = before.depth →
    after.depth = before.depth ∧
    answer ⟨before.cursor, form :: opened⟩ =
      settle after.cursor (result.map fun (cells, closing) =>
        Progress.put opened ((form.addAll cells).close closing))

def CellAgrees (token : Token) (before : Descent) (result : Except ReadError Node)
    (after : Descent) : Prop :=
  token.kind ∈ formKinds → token.kind ≠ .closeParen →
    ∀ (form : OpenForm) (opened : List OpenForm), opened.length + 1 = before.depth →
      after.depth = before.depth ∧
      settle before.cursor (Progress.take (form :: opened) token) =
        settle after.cursor (result.map (Progress.put (form :: opened)))

/-- An expected token and the cell it begins go onto the innermost form. -/
theorem CellAgrees.after {before middle later : Descent} {first : Token}
    {result : Except ReadError Node} (cell : CellAgrees first middle result later)
    (expects : Expects before (.ok first) middle) (inner : first.kind ≠ .closeParen)
    (form : OpenForm) (opened : List OpenForm) (counted : opened.length + 1 = before.depth) :
    later.depth = before.depth ∧
    answer ⟨before.cursor, form :: opened⟩ =
      settle later.cursor (result.map (Progress.put (form :: opened))) := by
  obtain ⟨depth, answered⟩ := expects.agrees form opened
  obtain ⟨depth', agrees⟩ := cell expects.mem_formKinds inner form opened (by omega)
  exact ⟨depth'.trans depth, answered.trans agrees⟩

/-- The cells after it go there, too. -/
theorem TailAgrees.after {before middle later after : Descent} {first : Token} {node : Node}
    {result : Except ReadError (List Node × Token)} (tail : TailAgrees later result after)
    (cell : CellAgrees first middle (.ok node) later)
    (expects : Expects before (.ok first) middle) (inner : first.kind ≠ .closeParen)
    (form : OpenForm) (opened : List OpenForm) (counted : opened.length + 1 = before.depth) :
    after.depth = before.depth ∧
    answer ⟨before.cursor, form :: opened⟩ =
      settle after.cursor (result.map fun (cells, closing) =>
        Progress.put opened ((form.addAll (node :: cells)).close closing)) := by
  obtain ⟨depth, answered⟩ := cell.after expects inner form opened counted
  obtain ⟨depth', agrees⟩ := tail (form.add node) opened (by omega)
  exact ⟨depth'.trans depth, answered.trans agrees⟩

theorem FormAgrees.tooDeep {opening : Token} {before : Descent}
    (deep : maxDepth < before.depth + 1) :
    FormAgrees opening before (.error (.tooDeep opening))
      ⟨before.cursor, before.depth + 1 - 1⟩ := by
  intro opens opened counted
  rw [Progress.take_of_taken (.tooDeep opens (by omega))]
  exact ⟨rfl, rfl⟩

theorem FormAgrees.reads {opening : Token} {before after : Descent}
    {result : Except ReadError Node} (room : before.depth + 1 ≤ maxDepth)
    (inside : InsideAgrees opening ⟨before.cursor, before.depth + 1⟩ result after) :
    FormAgrees opening before result ⟨after.cursor, after.depth - 1⟩ := by
  intro opens opened counted
  obtain ⟨depth, agrees⟩ := inside opened (by simp only [counted])
  rw [Progress.take_of_taken (.opens opens (by omega))]
  exact ⟨by simp only [depth, Nat.add_sub_cancel], agrees⟩

theorem TailAgrees.closes {before after : Descent} {closing : Token}
    (expects : Expects before (.ok closing) after) (closes : closing.kind = .closeParen) :
    TailAgrees before (.ok ([], closing)) after := by
  intro form opened _
  obtain ⟨depth, agrees⟩ := expects.agrees form opened
  refine ⟨depth, agrees.trans ?_⟩
  rw [Except.bind, take_closeParen closes]
  rfl

theorem InsideAgrees.emptyList {opening closing : Token} {before after : Descent}
    (expects : Expects before (.ok closing) after) (closes : closing.kind = .closeParen) :
    InsideAgrees opening before (.ok (.emptyList (opening.span.union closing.span))) after :=
  TailAgrees.closes expects closes ⟨opening, []⟩

theorem InsideAgrees.form {opening first closing : Token} {before middle later after : Descent}
    {head : Node} {tail : List Node} (expects : Expects before (.ok first) middle)
    (inner : first.kind ≠ .closeParen) (cell : CellAgrees first middle (.ok head) later)
    (cells : TailAgrees later (.ok (tail, closing)) after) :
    InsideAgrees opening before (.ok (.form head tail (opening.span.union closing.span))) after := by
  intro opened counted
  have agrees := cells.after cell expects inner ⟨opening, []⟩ opened counted
  simpa [Except.map, OpenForm.addAll_cells, OpenForm.close, Node.ofCells] using agrees

theorem CellAgrees.atom {token : Token} {before : Descent} (other : token.kind ≠ .openParen) :
    CellAgrees token before (.ok (.ofToken token)) before := by
  intro allowed inner form opened _
  rw [Progress.take_of_taken (.adds (mem_atomKinds allowed other inner))]
  exact ⟨rfl, rfl⟩

/-- Case by case the number of open forms is what it was, and the reader with a stack of that many
forms gives the same answer. -/
theorem ReadsForm.agrees {opening : Token} {before after : Descent}
    {result : Except ReadError Node} (reads : ReadsForm opening before result after) :
    FormAgrees opening before result after := by
  -- The relations are mutual, so each has its own motive and the cases stand in their order.
  refine @ReadsForm.rec
    (fun opening before result after _ => FormAgrees opening before result after)
    (fun opening before result after _ => InsideAgrees opening before result after)
    (fun before result after _ => TailAgrees before result after)
    (fun token before result after _ => CellAgrees token before result after)
    ?tooDeep ?reads ?fails ?emptyList ?headFails ?tailFails ?form
    ?expectFails ?closes ?cellFails ?restFails ?cons ?cellForm ?atom _ _ _ _ reads
  case tooDeep => exact .tooDeep
  case reads => exact fun room _ inside => .reads room inside
  case fails => exact fun expects opened _ => expects.agrees _ opened
  case emptyList => exact .emptyList
  case headFails => exact fun expects inner _ cell opened => cell.after expects inner _ opened
  case tailFails =>
    exact fun expects inner _ _ cell tail opened => tail.after cell expects inner _ opened
  case form => exact fun expects inner _ _ cell tail => .form expects inner cell tail
  case expectFails => exact fun expects form opened _ => expects.agrees form opened
  case closes => exact .closes
  case cellFails => exact fun expects inner _ cell => cell.after expects inner
  case restFails => exact fun expects inner _ _ cell rest => rest.after cell expects inner
  case cons => exact fun expects inner _ _ cell rest => rest.after cell expects inner
  case cellForm =>
    exact fun opens _ form _ _ outer opened counted => form opens (outer :: opened) counted
  case atom => exact .atom

/-- One call answers as the reader with a stack, and no form stays open. -/
theorem ReadsNode.agrees {before after : Descent} {result : Except ReadError Node}
    (reads : ReadsNode before result after) (closed : before.depth = 0) :
    after.depth = 0 ∧ next ⟨before.cursor, []⟩ = (result, ⟨after.cursor, []⟩) := by
  have next_eq (cursor : Cursor) : next ⟨cursor, []⟩ =
      ((answer ⟨cursor, []⟩).1.map (·.getD .endOfInput), (answer ⟨cursor, []⟩).2) := rfl
  cases reads with
  | ended skips ended =>
    rw [next_eq, skips.agrees, if_pos ended]
    exact ⟨closed, rfl⟩
  | unsupported skips ended opens =>
    rw [next_eq, skips.agrees, if_neg ended,
      Progress.take_of_taken (.unsupported skips.means_token opens)]
    exact ⟨closed, rfl⟩
  | @form token _ _ _ skips opens form =>
    have more : token.kind ≠ .endOfInput := by rw [opens]; decide
    obtain ⟨depth, agrees⟩ := form.agrees opens [] closed.symm
    rw [next_eq, skips.agrees, if_neg more, agrees]
    refine ⟨depth.trans closed, ?_⟩
    cases result <;> rfl

theorem exists_cursor {descent : Descent} (closed : descent.depth = 0) :
    ∃ cursor, descent = ⟨cursor, 0⟩ := by
  obtain ⟨cursor, depth⟩ := descent
  obtain rfl : depth = 0 := closed
  exact ⟨cursor, rfl⟩

theorem readsNode_iff {cursor : Cursor} {result : Except ReadError Node} {after : Descent} :
    ReadsNode ⟨cursor, 0⟩ result after ↔
      after.depth = 0 ∧ next ⟨cursor, []⟩ = (result, ⟨after.cursor, []⟩) := by
  refine ⟨fun reads => reads.agrees rfl, ?_⟩
  rintro ⟨closed, answered⟩
  obtain ⟨result', after', reads⟩ := exists_readsNode ⟨cursor, 0⟩
  obtain ⟨closed', answered'⟩ := reads.agrees rfl
  obtain ⟨last, rfl⟩ := exists_cursor closed
  obtain ⟨last', rfl⟩ := exists_cursor closed'
  obtain ⟨rfl, reader⟩ := Prod.mk.inj (answered.symm.trans answered')
  obtain rfl : last = last' := congrArg Reader.cursor reader
  exact reads

/-- All calls together answer as the reader with a stack. -/
theorem ReadsAll.agrees {before after : Descent} {nodes : List Node} {error? : Option ReadError}
    (reads : ReadsAll before nodes error? after) (closed : before.depth = 0) :
    after.depth = 0 ∧ (readAll ⟨before.cursor, []⟩).nodes = nodes ∧
    (readAll ⟨before.cursor, []⟩).error? = error? ∧
    (readAll ⟨before.cursor, []⟩).reader = ⟨after.cursor, []⟩ := by
  induction reads with
  | fails reads =>
    obtain ⟨depth, answered⟩ := reads.agrees closed
    obtain ⟨outcome, reader⟩ := Prod.mk.inj answered
    rw [readAll_of_error (outcome_of_next_error outcome)]
    exact ⟨depth, filterMap_node?_token _, rfl, reader⟩
  | ended reads =>
    obtain ⟨depth, answered⟩ := reads.agrees closed
    obtain ⟨outcome, reader⟩ := Prod.mk.inj answered
    rw [readAll_of_end (outcome_of_next_end outcome)]
    exact ⟨depth, filterMap_node?_token _, rfl, reader⟩
  | @node before node middle nodes error? after reads more _ ih =>
    obtain ⟨depth, answered⟩ := reads.agrees closed
    obtain ⟨outcome, reader⟩ := Prod.mk.inj answered
    obtain ⟨depth', read, error, last⟩ := ih depth
    rw [readAll_of_node (outcome_of_next_node outcome more),
      show (pull ⟨before.cursor, []⟩).reader = ⟨middle.cursor, []⟩ from reader]
    refine ⟨depth', ?_, error, last⟩
    rw [← read]
    simp [Reading.nodes, Event.node?]

theorem exists_readsAll (bound : Nat) : ∀ cursor : Cursor, cursor.rest.length < bound →
    ∃ nodes error? after, ReadsAll ⟨cursor, 0⟩ nodes error? after := by
  induction bound with
  | zero => exact fun cursor short => absurd short (Nat.not_lt_zero _)
  | succ bound ih =>
    intro cursor short
    obtain ⟨result, after, reads⟩ := exists_readsNode ⟨cursor, 0⟩
    rcases result with error | node
    · exact ⟨_, _, _, .fails reads⟩
    obtain ⟨closed, answered⟩ := reads.agrees rfl
    obtain ⟨middle, rfl⟩ := exists_cursor closed
    obtain ⟨outcome, reader⟩ := Prod.mk.inj answered
    by_cases ended : node = .endOfInput
    · exact ⟨_, _, _, .ended (ended ▸ reads)⟩
    have shorter := pull_node_rest_lt (outcome_of_next_node outcome ended)
    rw [show (pull ⟨cursor, []⟩).reader = ⟨middle, []⟩ from reader] at shorter
    obtain ⟨nodes, error?, last, rest⟩ := ih middle (by simp only at shorter; omega)
    exact ⟨_, _, _, .node reads ended rest⟩

theorem readsAll_iff {cursor : Cursor} {nodes : List Node} {error? : Option ReadError}
    {after : Descent} :
    ReadsAll ⟨cursor, 0⟩ nodes error? after ↔
      after.depth = 0 ∧ (readAll ⟨cursor, []⟩).nodes = nodes ∧
      (readAll ⟨cursor, []⟩).error? = error? ∧
      (readAll ⟨cursor, []⟩).reader = ⟨after.cursor, []⟩ := by
  refine ⟨fun reads => reads.agrees rfl, ?_⟩
  rintro ⟨closed, rfl, rfl, reader⟩
  obtain ⟨nodes, error?, after', reads⟩ := exists_readsAll _ cursor (Nat.lt_succ_self _)
  obtain ⟨closed', rfl, rfl, reader'⟩ := reads.agrees rfl
  obtain ⟨last, rfl⟩ := exists_cursor closed
  obtain ⟨last', rfl⟩ := exists_cursor closed'
  obtain rfl : last = last' := congrArg Reader.cursor (reader.symm.trans reader')
  exact reads

end Descent
end SexprCall
