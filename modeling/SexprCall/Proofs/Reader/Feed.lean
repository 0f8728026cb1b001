import SexprCall.Reading
import SexprCall.Proofs.Cursor.Tiling

/-! What a list of tokens makes of open forms. Readers take their tokens from a cursor; what they read
and where they fail is already settled by the list of the tokens left. -/
namespace SexprCall

/-- The tokens that mean something. -/
def significant (tokens : List Token) : List Token := tokens.filter (!·.kind.isTrivia)

@[simp] theorem significant_nil : significant [] = [] := rfl

theorem significant_cons_of_trivia {token : Token} (trivia : token.kind.isTrivia = true)
    (tokens : List Token) : significant (token :: tokens) = significant tokens := by
  simp [significant, trivia]

theorem significant_cons {token : Token} (means : token.kind.isTrivia = false)
    (tokens : List Token) : significant (token :: tokens) = token :: significant tokens := by
  simp [significant, means]

theorem significant_append (left right : List Token) :
    significant (left ++ right) = significant left ++ significant right :=
  List.filter_append left right

theorem significant_subset (tokens : List Token) : significant tokens ⊆ tokens :=
  List.filter_sublist.subset

/-- From one token that means something to another one, spacing and comments are left out in between. -/
theorem exists_of_significant_eq {tokens before inside after : List Token} {first last : Token}
    (split : significant tokens = before ++ (first :: (inside ++ [last]) ++ after)) :
    ∃ before' inside' after', tokens = before' ++ (first :: (inside' ++ [last]) ++ after') ∧
      significant (first :: (inside' ++ [last])) = first :: (inside ++ [last]) := by
  obtain ⟨left, rest, rfl, -, split⟩ := List.filter_eq_append_iff.1 split
  obtain ⟨middle, right, rfl, split, -⟩ := List.filter_eq_append_iff.1 split
  obtain ⟨blank, rest, rfl, -, means, split⟩ := List.filter_eq_cons_iff.1 split
  obtain ⟨front, back, rfl, fronts, split⟩ := List.filter_eq_append_iff.1 split
  obtain ⟨blank', back, rfl, trivia, means', split⟩ := List.filter_eq_cons_iff.1 split
  have means : first.kind.isTrivia = false := by simpa using means
  have means' : last.kind.isTrivia = false := by simpa using means'
  have none : significant blank' = [] := List.filter_eq_nil_iff.2 trivia
  have fronts : significant front = inside := fronts
  refine ⟨left ++ blank, front ++ blank', back ++ right, by simp, ?_⟩
  rw [significant_cons means, significant_append, significant_append, significant_cons means', fronts,
    none, List.append_nil, significant_nil]

namespace Grammar

def symbolKinds : List TokenKind := [.identifier, .keyword]

def literalKinds : List TokenKind := [
  .backquote, .literal, .openAngleBracket, .closeAngleBracket, .equals, .bang, .ampersand]

def atomKinds : List TokenKind := symbolKinds ++ literalKinds

end Grammar

open Grammar

theorem Node.ofToken_of_symbol {token : Token} (symbol : token.kind ∈ symbolKinds) :
    Node.ofToken token = .atom .symbol token token.span := by
  have kinds : token.kind = .identifier ∨ token.kind = .keyword := by
    simpa [symbolKinds] using symbol
  rcases kinds with kind | kind <;> simp [ofToken, kind, AtomKind.ofTokenKind]

theorem Node.ofToken_of_literal {token : Token} (literal : token.kind ∈ literalKinds) :
    Node.ofToken token = .atom .literal token token.span := by
  simp only [literalKinds, List.mem_cons, List.not_mem_nil, or_false] at literal
  rcases literal with kind | kind | kind | kind | kind | kind | kind <;>
    simp [ofToken, kind, AtomKind.ofTokenKind]

/-- The form with more cells, the first of them first. -/
def OpenForm.addAll (form : OpenForm) (cells : List Node) : OpenForm := cells.foldl add form

theorem OpenForm.addAll_cells (form : OpenForm) (cells : List Node) :
    form.addAll cells = { form with cells := cells.reverse ++ form.cells } := by
  induction cells generalizing form with
  | nil => rfl
  | cons cell cells ih => simpa [addAll, add] using ih (form.add cell)

inductive Progress.Taken (token : Token) : List OpenForm → Except ReadError Progress → Prop where
  | trivia {opened} : token.kind.isTrivia = true → Taken token opened (.ok (.going opened))
  | unsupported : token.kind.isTrivia = false → token.kind ≠ .openParen →
      Taken token [] (.error (.unsupported token))
  | unexpected {form outer} : token.kind.isTrivia = false → token.kind ∉ formKinds →
      Taken token (form :: outer) (.error (.unexpected formKinds token))
  | opens {opened} : token.kind = .openParen → opened.length < maxDepth →
      Taken token opened (.ok (.going (⟨token, []⟩ :: opened)))
  | tooDeep {opened} : token.kind = .openParen → maxDepth ≤ opened.length →
      Taken token opened (.error (.tooDeep token))
  | completes {form} : token.kind = .closeParen →
      Taken token [form] (.ok (.complete (form.close token)))
  | closes {form parent outer} : token.kind = .closeParen →
      Taken token (form :: parent :: outer) (.ok (.going (parent.add (form.close token) :: outer)))
  | adds {form outer} : token.kind ∈ atomKinds →
      Taken token (form :: outer) (.ok (.going (form.add (.ofToken token) :: outer)))

theorem Progress.taken (opened : List OpenForm) (token : Token) :
    Taken token opened (Progress.take opened token) := by
  unfold Progress.take
  split
  · exact .trivia ‹_›
  rename_i means
  have means : token.kind.isTrivia = false := by simpa using means
  split
  · split
    · exact .opens ‹_› (by decide)
    · exact .unsupported means ‹_›
  split
  · exact .unexpected means ‹_›
  rename_i allowed
  split
  · split
    · exact .opens ‹_› ‹_›
    · exact .tooDeep ‹_› (by omega)
  rename_i opens
  split
  · split
    · exact .completes ‹_›
    · exact .closes ‹_›
  rename_i closes
  generalize kindOf : token.kind = kind at *
  cases kind
  case openParen => exact absurd rfl opens
  case closeParen => exact absurd rfl closes
  case whitespace | lineComment => simp [TokenKind.isTrivia] at means
  case comma | dummy | endOfInput => simp [formKinds] at allowed
  all_goals exact .adds (by simp [kindOf, atomKinds, symbolKinds, literalKinds])

theorem Progress.take_of_taken {opened : List OpenForm} {token : Token}
    {result : Except ReadError Progress} (taken : Taken token opened result) :
    Progress.take opened token = result := by
  cases taken with
  | trivia trivia => simp [take, trivia]
  | unsupported means other => simp [take, means, other]
  | unexpected means refused => simp [take, means, refused]
  | opens opens room =>
    cases opened with
    | nil => simp [take, opens, TokenKind.isTrivia]
    | cons form outer =>
      simp only [List.length_cons] at room
      simp [take, opens, TokenKind.isTrivia, formKinds, room]
  | tooDeep opens full =>
    cases opened with
    | nil => simp [maxDepth] at full
    | cons form outer =>
      simp only [List.length_cons] at full
      simp [take, opens, TokenKind.isTrivia, formKinds, Nat.not_lt.2 full]
  | completes closes => simp [take, closes, TokenKind.isTrivia, formKinds]
  | closes closes => simp [take, closes, TokenKind.isTrivia, formKinds]
  | adds atom =>
    revert atom
    generalize kindOf : token.kind = kind
    cases kind <;>
      simp [atomKinds, symbolKinds, literalKinds, take, kindOf, TokenKind.isTrivia, formKinds]

theorem Progress.token_of_take_error {opened : List OpenForm} {token : Token} {error : ReadError}
    (failed : Progress.take opened token = .error error) : error.token = token := by
  have taken := Progress.taken opened token
  rw [failed] at taken
  cases taken <;> rfl

theorem Progress.complete_ne_endOfInput {opened : List OpenForm} {token : Token} {node : Node}
    (complete : Progress.take opened token = .ok (.complete node)) : node ≠ .endOfInput := by
  have taken := Progress.taken opened token
  rw [complete] at taken
  cases taken
  unfold OpenForm.close Node.ofCells
  split <;> simp

/-- What comes of tokens: the nodes they complete, the forms they leave open or the first error, and
the tokens after that error. -/
structure Feed where
  nodes : List Node
  outcome : Except ReadError (List OpenForm)
  rest : List Token

def feed : List OpenForm → List Token → Feed
  | opened, [] => ⟨[], .ok opened, []⟩
  | opened, token :: tokens =>
    match Progress.take opened token with
    | .error error => ⟨[], .error error, tokens⟩
    | .ok (.going opened) => feed opened tokens
    | .ok (.complete node) =>
      let later := feed [] tokens
      { later with nodes := node :: later.nodes }

@[simp] theorem feed_nil (opened : List OpenForm) : feed opened [] = ⟨[], .ok opened, []⟩ := rfl

theorem feed_of_error {opened : List OpenForm} {token : Token} {error : ReadError}
    (failed : Progress.take opened token = .error error) (tokens : List Token) :
    feed opened (token :: tokens) = ⟨[], .error error, tokens⟩ := by
  rw [feed, failed]

theorem feed_of_going {opened later : List OpenForm} {token : Token}
    (going : Progress.take opened token = .ok (.going later)) (tokens : List Token) :
    feed opened (token :: tokens) = feed later tokens := by
  rw [feed, going]

theorem feed_of_complete {opened : List OpenForm} {token : Token} {node : Node}
    (complete : Progress.take opened token = .ok (.complete node)) (tokens : List Token) :
    feed opened (token :: tokens) =
      { feed [] tokens with nodes := node :: (feed [] tokens).nodes } := by
  rw [feed, complete]

/-- Spacing and comments can be left out. -/
theorem feed_significant (opened : List OpenForm) (tokens : List Token) :
    (feed opened (significant tokens)).nodes = (feed opened tokens).nodes ∧
      (feed opened (significant tokens)).outcome = (feed opened tokens).outcome := by
  induction tokens generalizing opened with
  | nil => exact ⟨rfl, rfl⟩
  | cons token tokens ih =>
    cases trivia : token.kind.isTrivia with
    | true =>
      rw [significant_cons_of_trivia trivia,
        feed_of_going (Progress.take_of_taken (.trivia trivia))]
      exact ih opened
    | false =>
      rw [significant_cons trivia]
      cases taken : Progress.take opened token with
      | error error => simp [feed_of_error taken]
      | ok progress =>
        cases progress with
        | going later => simpa [feed_of_going taken] using ih later
        | complete node => simpa [feed_of_complete taken] using ih []

/-- What is fed goes on where the tokens before it have led to. -/
theorem feed_append_of_ok {opened later : List OpenForm} {tokens : List Token}
    (going : (feed opened tokens).outcome = .ok later) (more : List Token) :
    feed opened (tokens ++ more) =
      { feed later more with nodes := (feed opened tokens).nodes ++ (feed later more).nodes } := by
  induction tokens generalizing opened with
  | nil =>
    obtain rfl : opened = later := Except.ok.inj going
    rfl
  | cons token tokens ih =>
    rw [List.cons_append]
    cases taken : Progress.take opened token with
    | error error => simp [feed_of_error taken] at going
    | ok progress =>
      cases progress with
      | going middle =>
        rw [feed_of_going taken] at going
        rw [feed_of_going taken, feed_of_going taken, ih going]
      | complete node =>
        rw [feed_of_complete taken] at going
        rw [feed_of_complete taken, feed_of_complete taken, ih going]
        rfl

/-- After an error nothing counts. -/
theorem feed_append_of_error {opened : List OpenForm} {tokens : List Token} {error : ReadError}
    (failed : (feed opened tokens).outcome = .error error) (more : List Token) :
    feed opened (tokens ++ more) =
      { feed opened tokens with rest := (feed opened tokens).rest ++ more } := by
  induction tokens generalizing opened with
  | nil => simp at failed
  | cons token tokens ih =>
    rw [List.cons_append]
    cases taken : Progress.take opened token with
    | error error =>
      rw [feed_of_error taken, feed_of_error taken]
    | ok progress =>
      cases progress with
      | going middle =>
        rw [feed_of_going taken] at failed
        rw [feed_of_going taken, feed_of_going taken, ih failed]
      | complete node =>
        rw [feed_of_complete taken] at failed
        rw [feed_of_complete taken, feed_of_complete taken, ih failed]

/-- The complete nodes are made of the first tokens alone, and these leave no form open. -/
theorem exists_feed_complete (tokens : List Token) :
    ∃ used rest, tokens = used ++ rest ∧ (feed [] used).nodes = (feed [] tokens).nodes ∧
      (feed [] used).outcome = .ok [] := by
  suffices ∀ opened, (feed opened tokens).nodes = [] ∨ ∃ used rest, tokens = used ++ rest ∧
      (feed opened used).nodes = (feed opened tokens).nodes ∧
      (feed opened used).outcome = .ok [] by
    rcases this [] with none | complete
    · exact ⟨[], tokens, rfl, none.symm, rfl⟩
    · exact complete
  induction tokens with
  | nil => exact fun opened => .inl rfl
  | cons token tokens ih =>
    intro opened
    cases taken : Progress.take opened token with
    | error error => exact .inl (by rw [feed_of_error taken])
    | ok progress =>
      cases progress with
      | going later =>
        rw [feed_of_going taken]
        rcases ih later with none | ⟨used, rest, rfl, nodes, closed⟩
        · exact .inl none
        · exact .inr ⟨token :: used, rest, rfl, by rw [feed_of_going taken, nodes],
            by rw [feed_of_going taken, closed]⟩
      | complete node =>
        rw [feed_of_complete taken]
        rcases ih [] with none | ⟨used, rest, rfl, nodes, closed⟩
        · exact .inr ⟨[token], tokens, rfl, by rw [feed_of_complete taken, none]; rfl,
            by rw [feed_of_complete taken]; rfl⟩
        · exact .inr ⟨token :: used, rest, rfl, by rw [feed_of_complete taken, nodes],
            by rw [feed_of_complete taken]; exact closed⟩

theorem token_mem_of_feed_error {opened : List OpenForm} {tokens : List Token} {error : ReadError}
    (failed : (feed opened tokens).outcome = .error error) : error.token ∈ tokens := by
  induction tokens generalizing opened with
  | nil => simp at failed
  | cons token tokens ih =>
    cases taken : Progress.take opened token with
    | error other =>
      obtain rfl : other = error := by simpa [feed_of_error taken] using failed
      rw [Progress.token_of_take_error taken]
      exact List.mem_cons_self
    | ok progress =>
      cases progress with
      | going later =>
        rw [feed_of_going taken] at failed
        exact List.mem_cons_of_mem _ (ih failed)
      | complete node =>
        rw [feed_of_complete taken] at failed
        exact List.mem_cons_of_mem _ (ih failed)

def Feed.error? (fed : Feed) (atEnd : Token) : Option ReadError :=
  match fed.outcome with
  | .error error => some error
  | .ok [] => none
  | .ok (_ :: _) => some (.unexpected formKinds atEnd)

theorem Feed.error?_eq_some {fed : Feed} {atEnd : Token} {error : ReadError} :
    fed.error? atEnd = some error ↔ fed.outcome = .error error ∨
      (∃ form outer, fed.outcome = .ok (form :: outer)) ∧ .unexpected formKinds atEnd = error := by
  unfold error?
  rcases fed.outcome with other | (_ | ⟨form, outer⟩) <;> simp

theorem filterMap_node?_token (tokens : List Token) :
    (tokens.map Event.token).filterMap Event.node? = [] := by
  simp [List.filterMap_map, Event.node?]

theorem filterMap_token?_token (tokens : List Token) :
    (tokens.map Event.token).filterMap Event.token? = tokens := by
  simp [List.filterMap_map, Function.comp_def, Event.token?]

namespace Reader

theorem pull_node_ne_endOfInput {reader : Reader} {node : Node}
    (complete : reader.pull.outcome = .ok (some node)) : node ≠ .endOfInput := by
  fun_induction pull reader with
  | case1 reader used =>
    unfold Progress.finish at complete
    split at complete <;> simp at complete
  | case2 => simp at complete
  | case3 reader token after found read taken =>
    obtain rfl : read = node := by simpa using complete
    exact Progress.complete_ne_endOfInput taken
  | case4 reader token after found opened taken later ih => exact ih complete

theorem outcome_of_next_error {reader : Reader} {error : ReadError}
    (answered : reader.next.1 = .error error) : reader.pull.outcome = .error error := by
  unfold next at answered
  rcases outcome : reader.pull.outcome with other | node?
  · simpa [outcome, Except.map] using answered
  · simp [outcome, Except.map] at answered

theorem outcome_of_next_end {reader : Reader} (answered : reader.next.1 = .ok .endOfInput) :
    reader.pull.outcome = .ok none := by
  unfold next at answered
  rcases outcome : reader.pull.outcome with error | (_ | node)
  · simp [outcome, Except.map] at answered
  · rfl
  · have other := pull_node_ne_endOfInput outcome
    simp [outcome, Except.map, other] at answered

theorem outcome_of_next_node {reader : Reader} {node : Node} (answered : reader.next.1 = .ok node)
    (more : node ≠ .endOfInput) : reader.pull.outcome = .ok (some node) := by
  unfold next at answered
  rcases outcome : reader.pull.outcome with error | (_ | other)
  · simp [outcome, Except.map] at answered
  · simp [outcome, Except.map, more.symm] at answered
  · simpa [outcome, Except.map] using answered

theorem pull_of_next? {reader : Reader} {token : Token} {after : Cursor}
    (found : reader.cursor.next? = some (token, after)) :
    reader.pull =
      match Progress.take reader.opened token with
      | .error error => ⟨[token], .error error, ⟨after, []⟩⟩
      | .ok (.complete node) => ⟨[token], .ok (some node), ⟨after, []⟩⟩
      | .ok (.going opened) =>
        { pull ⟨after, opened⟩ with tokens := token :: (pull ⟨after, opened⟩).tokens } := by
  rw [pull]
  split <;> rename_i same
  · simp [found] at same
  · obtain ⟨rfl, rfl⟩ : token = _ ∧ after = _ := by simpa [found] using same
    rfl

theorem readAll_of_next?_error {reader : Reader} {token : Token} {after : Cursor}
    {error : ReadError} (found : reader.cursor.next? = some (token, after))
    (failed : Progress.take reader.opened token = .error error) :
    reader.readAll = ⟨[.token token], some error, ⟨after, []⟩⟩ := by
  have pulled := pull_of_next? found
  rw [failed] at pulled
  rw [readAll_of_error (by rw [pulled]), pulled]
  rfl

theorem readAll_of_next?_complete {reader : Reader} {token : Token} {after : Cursor} {node : Node}
    (found : reader.cursor.next? = some (token, after))
    (complete : Progress.take reader.opened token = .ok (.complete node)) :
    reader.readAll =
      { readAll ⟨after, []⟩ with
        events := .token token :: .node node :: (readAll ⟨after, []⟩).events } := by
  have pulled := pull_of_next? found
  rw [complete] at pulled
  rw [readAll_of_node (by rw [pulled]), pulled]
  rfl

theorem readAll_of_next?_going {reader : Reader} {token : Token} {after : Cursor}
    {opened : List OpenForm} (found : reader.cursor.next? = some (token, after))
    (going : Progress.take reader.opened token = .ok (.going opened)) :
    reader.readAll =
      { readAll ⟨after, opened⟩ with events := .token token :: (readAll ⟨after, opened⟩).events } := by
  have pulled := pull_of_next? found
  rw [going] at pulled
  cases outcome : (pull ⟨after, opened⟩).outcome with
  | error error =>
    rw [readAll_of_error outcome, readAll_of_error (by rw [pulled]; exact outcome), pulled]
    rfl
  | ok node? =>
    cases node? with
    | none =>
      rw [readAll_of_end outcome, readAll_of_end (by rw [pulled]; exact outcome), pulled]
      rfl
    | some node =>
      rw [readAll_of_node outcome, readAll_of_node (by rw [pulled]; exact outcome), pulled]
      rfl

/-- Where a reader stops: right after the token of the error, or at the end of the source. -/
def stopOffset (src : Text) (error? : Option ReadError) : Nat :=
  match error? with
  | some error => error.token.span.stop
  | none => src.length

/-- What a reader over a source reads, and where and why it stops, follows from its open forms and
the tokens left. -/
theorem readAll_past {src : Text} (offset : Nat) (within : offset ≤ src.length)
    (opened : List OpenForm) :
    let reading := readAll ⟨.past src offset, opened⟩
    let fed := feed opened (Cursor.past src offset).tokens
    reading.nodes = fed.nodes ∧ reading.error? = fed.error? (endToken src) ∧
      reading.reader = ⟨.past src (stopOffset src (fed.error? (endToken src))), []⟩ := by
  induction offset, within using Cursor.past_induction generalizing opened with
  | used =>
    have pulled : pull ⟨.past src src.length, opened⟩ =
        ⟨[], Progress.finish opened (endToken src), ⟨.past src src.length, []⟩⟩ := by
      rw [← atEnd_past_length]
      exact pull_of_rest_nil (Cursor.next?_eq_none.1 (Cursor.next?_past_length src))
    cases opened with
    | nil =>
      rw [readAll_of_end (by rw [pulled]; rfl), pulled, Cursor.tokens_past_length]
      exact ⟨rfl, rfl, rfl⟩
    | cons form outer =>
      rw [readAll_of_error (by rw [pulled]; rfl), pulled, Cursor.tokens_past_length]
      refine ⟨rfl, rfl, ?_⟩
      have stop : (endToken src).span.stop = src.length := by
        simp [endToken, Token.atEnd, Position.start]
      simp [Feed.error?, stopOffset, ReadError.token, stop]
  | more offset token within step found ih =>
    have tokens := Cursor.tokens_of_next? found
    simp only [tokens]
    cases taken : Progress.take opened token with
    | error error =>
      have about : error.token = token := Progress.token_of_take_error taken
      rw [readAll_of_next?_error found taken, feed_of_error taken]
      exact ⟨rfl, rfl, by simp [Feed.error?, stopOffset, about]⟩
    | ok progress =>
      cases progress with
      | going later =>
        rw [readAll_of_next?_going found taken, feed_of_going taken]
        exact ih later
      | complete node =>
        obtain ⟨nodes, error?, reader⟩ := ih []
        rw [readAll_of_next?_complete found taken, feed_of_complete taken]
        exact ⟨congrArg (node :: ·) nodes, error?, reader⟩

end Reader

/-- A new reader reads what feeding the tokens of the source gives. -/
theorem Reader.readAll_ofText (src : Text) :
    (ofText src).readAll.nodes = (feed [] (tokenize src)).nodes ∧
      (ofText src).readAll.error? = (feed [] (tokenize src)).error? (endToken src) := by
  obtain ⟨nodes, error?, -⟩ := readAll_past 0 (Nat.zero_le src.length) []
  exact ⟨nodes, error?⟩

/-- Parsing is feeding the tokens of the source to no open forms. -/
theorem parse_eq_feed (src : Text) :
    parse src =
      match (feed [] (tokenize src)).error? (endToken src) with
      | some error => .error error
      | none => .ok (feed [] (tokenize src)).nodes := by
  obtain ⟨nodes, error?⟩ := Reader.readAll_ofText src
  rcases fed : (feed [] (tokenize src)).error? (endToken src) with _ | error <;>
    simp [parse, Reading.result, nodes, error?, fed]

theorem parse_eq_error_iff {src : Text} {error : ReadError} :
    parse src = .error error ↔ (feed [] (tokenize src)).error? (endToken src) = some error := by
  rw [parse_eq_feed]
  split <;> simp_all

/-- The tokens that mean something are enough. -/
theorem parse_eq_feed_significant (src : Text) :
    parse src =
      match (feed [] (significant (tokenize src))).error? (endToken src) with
      | some error => .error error
      | none => .ok (feed [] (significant (tokenize src))).nodes := by
  obtain ⟨nodes, outcome⟩ := feed_significant [] (tokenize src)
  rw [parse_eq_feed, nodes, Feed.error?, Feed.error?, outcome]

end SexprCall
