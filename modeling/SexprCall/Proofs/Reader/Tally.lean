import SexprCall.Proofs.Reader.Agreement

/-! Reading with a counter. Which source is read, where it fails and how many nodes come before is
settled by the number of open forms alone, without the forms. -/
namespace SexprCall

open Grammar

/-- What a token makes of the number of open forms. -/
def count (opened : Nat) (token : Token) : Except ReadError Nat :=
  match opened with
  | 0 => if token.kind = .openParen then .ok 1 else .error (.unsupported token)
  | outer + 1 =>
    if token.kind = .comma ∨ token.kind = .endOfInput then .error (.unexpected formKinds token)
    else if token.kind = .closeParen then .ok outer
    else if token.kind = .openParen then
      if opened < maxDepth then .ok (opened + 1) else .error (.tooDeep token)
    else .ok opened

/-- What a scan comes to: how often the number of open forms came back to zero, and the first
fault. -/
structure Tally where
  returns : Nat
  fault? : Option ReadError

/-- Counts up to the first fault, or to an end of input outside of all forms. -/
def tally : Nat → List Token → Tally
  | _, [] => ⟨0, none⟩
  | opened, token :: tokens =>
    if opened = 0 ∧ token.kind = .endOfInput then ⟨0, none⟩
    else match count opened token with
      | .error fault => ⟨0, some fault⟩
      | .ok later =>
        let rest := tally later tokens
        { rest with returns := rest.returns + if later = 0 then 1 else 0 }

theorem tally_of_error {opened : Nat} {token : Token} {fault : ReadError}
    (more : token.kind ≠ .endOfInput) (failed : count opened token = .error fault)
    (tokens : List Token) : tally opened (token :: tokens) = ⟨0, some fault⟩ := by
  simp [tally, more, failed]

theorem tally_of_ok {opened later : Nat} {token : Token} (more : token.kind ≠ .endOfInput)
    (counted : count opened token = .ok later) (tokens : List Token) :
    tally opened (token :: tokens) =
      ⟨(tally later tokens).returns + if later = 0 then 1 else 0, (tally later tokens).fault?⟩ := by
  simp [tally, more, counted]

/-- How many forms are open when reading goes on. -/
def Progress.opened : Progress → Nat
  | going opened => opened.length
  | complete _ => 0

/-- The counter follows the stack: it fails with it, and it comes to zero when a node is complete. -/
theorem count_take {opened : List OpenForm} {token : Token} (means : token.kind.isTrivia = false)
    (scanned : token.kind ≠ .dummy) :
    count opened.length token = (Progress.take opened token).map Progress.opened := by
  have cases := Progress.taken opened token
  generalize Progress.take opened token = result at cases
  cases cases with
  | trivia trivia => simp [means] at trivia
  | unsupported _ other => simp [count, other, Except.map]
  | unexpected _ refused =>
    have kind : token.kind = .comma ∨ token.kind = .endOfInput := by
      revert means scanned refused
      generalize token.kind = kind
      cases kind <;> decide
    simp [count, kind, Except.map]
  | opens opens room =>
    cases opened with
    | nil => simp [count, opens, Except.map, Progress.opened]
    | cons form outer =>
      simp only [List.length_cons] at room
      simp [count, opens, room, Except.map, Progress.opened]
  | tooDeep opens full =>
    cases opened with
    | nil => simp [maxDepth] at full
    | cons form outer =>
      simp only [List.length_cons] at full
      simp [count, opens, Nat.not_lt.2 full, Except.map]
  | completes closes => simp [count, closes, Except.map, Progress.opened]
  | closes closes => simp [count, closes, Except.map, Progress.opened]
  | adds atom =>
    have kinds : token.kind ≠ .comma ∧ token.kind ≠ .endOfInput ∧ token.kind ≠ .closeParen ∧
        token.kind ≠ .openParen := by
      revert atom
      generalize token.kind = kind
      cases kind <;> decide
    simp [count, kinds, Except.map, Progress.opened]

/-- Reading goes on only with a form open. -/
theorem Progress.opened_pos {opened later : List OpenForm} {token : Token}
    (means : token.kind.isTrivia = false)
    (going : Progress.take opened token = .ok (.going later)) : later.length ≠ 0 := by
  have taken := Progress.taken opened token
  rw [going] at taken
  cases taken with
  | trivia trivia => simp [means] at trivia
  | opens | closes | adds => simp

/-- The scan of tokens and of the end of input gives the number of nodes and the error. -/
theorem tally_eq_feed {atEnd : Token} (ends : atEnd.kind = .endOfInput) {tokens : List Token}
    (means : ∀ token ∈ tokens, token.kind.isTrivia = false)
    (scanned : ∀ token ∈ tokens, token.kind ≠ .dummy ∧ token.kind ≠ .endOfInput)
    (opened : List OpenForm) :
    tally opened.length (tokens ++ [atEnd]) =
      ⟨(feed opened tokens).nodes.length, (feed opened tokens).error? atEnd⟩ := by
  induction tokens generalizing opened with
  | nil =>
    cases opened with
    | nil => simp [tally, ends, Feed.error?]
    | cons form outer => simp [tally, count, ends, Feed.error?]
  | cons token tokens ih =>
    rw [List.forall_mem_cons] at means scanned
    obtain ⟨means, laterMeans⟩ := means
    obtain ⟨⟨regular, more⟩, laterScanned⟩ := scanned
    have ih := ih laterMeans laterScanned
    have counted := @count_take opened token means regular
    rw [List.cons_append]
    cases taken : Progress.take opened token with
    | error error =>
      rw [taken] at counted
      rw [tally_of_error more counted, feed_of_error taken]
      rfl
    | ok progress =>
      rw [taken] at counted
      rw [tally_of_ok more counted]
      cases progress with
      | going later =>
        rw [feed_of_going taken, Progress.opened, ih, if_neg (Progress.opened_pos means taken)]
        rfl
      | complete node =>
        rw [feed_of_complete taken, Progress.opened, ← @List.length_nil OpenForm, ih]
        rfl

def Tally.ofText (src : Text) : Tally := tally 0 (significant (tokenize src) ++ [endToken src])

theorem Tally.ofText_eq_feed (src : Text) :
    ofText src = ⟨(feed [] (tokenize src)).nodes.length,
      (feed [] (tokenize src)).error? (endToken src)⟩ := by
  have means : ∀ token ∈ significant (tokenize src), token.kind.isTrivia = false := by
    simp [significant]
  have scanned : ∀ token ∈ significant (tokenize src),
      token.kind ≠ .dummy ∧ token.kind ≠ .endOfInput := fun token member =>
    kind_of_mem_tokenize ((List.mem_filter.1 member).1)
  obtain ⟨nodes, outcome⟩ := feed_significant [] (tokenize src)
  have counted := @tally_eq_feed (endToken src) rfl _ means scanned []
  rw [nodes, Feed.error?, outcome] at counted
  exact counted

/-- A source is read if the scan finds no fault; else the error is the first fault. Up to there as
many nodes are read as the counter came back to zero, the cursor stands right after the faulting
token and no form is open. The recursive descent ends that way, too, and in no other. -/
theorem parse_tally (src : Text) :
    let scan := Tally.ofText src
    let reading := (Reader.ofText src).readAll
    let stop := Cursor.past src (Reader.stopOffset src scan.fault?)
    ((∃ nodes, parse src = .ok nodes) ↔ scan.fault? = none) ∧
    (∀ error, parse src = .error error ↔ scan.fault? = some error) ∧
    reading.error? = scan.fault? ∧ reading.nodes.length = scan.returns ∧
    reading.reader = ⟨stop, []⟩ ∧
    ∀ nodes error? after, Descent.ReadsAll ⟨.ofText src, 0⟩ nodes error? after ↔
      nodes = reading.nodes ∧ error? = scan.fault? ∧ after = ⟨stop, 0⟩ := by
  intro scan reading stop
  obtain ⟨nodes, error?, reader⟩ := Reader.readAll_past 0 (Nat.zero_le src.length) []
  have scanned : scan = ⟨reading.nodes.length, reading.error?⟩ := by
    rw [show scan = _ from Tally.ofText_eq_feed src, show reading.nodes = _ from nodes,
      show reading.error? = _ from error?]
    rfl
  have fault : reading.error? = scan.fault? := by rw [scanned]
  have stopped : reading.reader = ⟨stop, []⟩ := by
    rw [show stop = Cursor.past src (Reader.stopOffset src scan.fault?) from rfl, ← fault,
      show reading.error? = _ from error?]
    exact reader
  have parsed : parse src = reading.result := rfl
  refine ⟨?_, ?_, fault, by rw [scanned], stopped, ?_⟩
  · rw [parsed, Reading.result, ← fault]
    cases reading.error? <;> simp
  · intro error
    rw [parsed, Reading.result, ← fault]
    cases reading.error? <;> simp
  · intro others otherError? after
    rw [Descent.readsAll_iff]
    change after.depth = 0 ∧ reading.nodes = others ∧ reading.error? = otherError? ∧
      reading.reader = ⟨after.cursor, []⟩ ↔ _
    rw [stopped, fault]
    constructor
    · rintro ⟨depth, rfl, rfl, same⟩
      obtain ⟨cursor, rfl⟩ := Descent.exists_cursor depth
      obtain rfl : stop = cursor := congrArg Reader.cursor same
      exact ⟨rfl, rfl, rfl⟩
    · rintro ⟨rfl, rfl, rfl⟩
      exact ⟨rfl, rfl, rfl, rfl⟩

end SexprCall
