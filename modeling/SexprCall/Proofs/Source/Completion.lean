import SexprCall.Proofs.Reader.Tally
import SexprCall.Proofs.Source.Extension

/-! Sources that are not finished yet. Where the source ends inside of forms, some text completes it:
what the last lexeme lacks and a closing parenthesis for each open form. After any other error no text
does. -/
namespace SexprCall

open Lexeme Grammar

namespace Lexeme

def isUnclosed (lexeme : Lexeme) : Bool :=
  lexeme.kind = .literal ∧ Text.quoteMark ∉ lexeme.text.tail

/-- What a lexeme at the end of a source lacks to end before anything else. -/
def ending (lexeme : Lexeme) : Text :=
  if lexeme.isUnclosed then [Text.quoteMark]
  else if lexeme.kind = .lineComment then ['\n']
  else []

/-- The lexeme with its ending. A line feed is not a part of the comment that it ends. -/
def ended (lexeme : Lexeme) : List Lexeme :=
  if lexeme.isUnclosed then [⟨.literal, lexeme.text ++ [Text.quoteMark]⟩]
  else if lexeme.kind = .lineComment then [lexeme, ⟨.whitespace, ['\n']⟩]
  else [lexeme]

theorem flatMap_ended (lexeme : Lexeme) :
    lexeme.ended.flatMap text = lexeme.text ++ lexeme.ending := by
  unfold ended ending
  by_cases unclosed : lexeme.isUnclosed = true
  · simp [unclosed]
  · by_cases comment : lexeme.kind = .lineComment <;> simp [unclosed, comment]

theorem ended_eq_singleton {lexeme : Lexeme} (other : lexeme.kind ≠ .literal)
    (other' : lexeme.kind ≠ .lineComment) : lexeme.ended = [lexeme] := by
  simp [ended, isUnclosed, other, other']

/-- Now a closing parenthesis can follow. -/
theorem chain_ended {lexeme : Lexeme} (ends : Fits lexeme []) {after : Text}
    (closes : BoundedBy (· = ')') after) : Chain lexeme.ended after := by
  cases ends with
  | @comment body _ inside _ =>
    have line : BoundedBy (· = '\n') ('\n' :: after) := fun c first => (Option.some.inj first).symm
    have feed : Fits ⟨.whitespace, ['\n']⟩ after := by
      have blank : isSpacing '\n' = true := by decide
      refine .spacing (by simp [blank]) fun c first => ?_
      obtain rfl : c = ')' := closes c first
      decide
    exact ⟨.comment inside line, feed, trivial⟩
  | @single c kind _ single =>
    have fixed := single?_not_mem_growingKinds single
    rw [ended_eq_singleton (by rintro rfl; exact fixed (by decide))
      (by rintro rfl; exact fixed (by decide)), chain_singleton]
    exact .single single
  | spacing inside _ =>
    rw [ended_eq_singleton (by simp) (by simp), chain_singleton]
    refine .spacing inside fun c first => ?_
    obtain rfl : c = ')' := closes c first
    decide
  | @word first body _ starts inside _ =>
    have kinds := classify_eq (first :: body)
    rw [ended_eq_singleton (by rcases kinds with kind | kind <;> simp [kind])
      (by rcases kinds with kind | kind <;> simp [kind]), chain_singleton]
    refine .word starts inside fun c next => ?_
    obtain rfl : c = ')' := closes c next
    decide
  | @closed quote body _ quotes inside =>
    obtain rfl : quote = Text.quoteMark := by simpa [literalQuotes] using quotes
    have closed : isUnclosed ⟨.literal, Text.quoteMark :: body ++ [Text.quoteMark]⟩ = false := by
      simp [isUnclosed]
    rw [ended, closed]
    exact chain_singleton.2 (.closed quotes inside)
  | @unclosed quote body quotes inside =>
    obtain rfl : quote = Text.quoteMark := by simpa [literalQuotes] using quotes
    have unclosed : isUnclosed ⟨.literal, Text.quoteMark :: body⟩ = true := by
      simp [isUnclosed, inside]
    rw [ended, unclosed]
    exact chain_singleton.2 (.closed quotes inside)

/-- Closing parentheses are a lexeme each. -/
theorem ofText_closers (count : Nat) :
    ofText (List.replicate count ')') = List.replicate count ⟨.closeParen, [')']⟩ := by
  induction count with
  | zero => exact ofText_nil
  | succ count ih =>
    have fits : Fits ⟨.closeParen, [')']⟩ (List.replicate count ')') := .single rfl
    have first := Lexeme.ofText_append fits
    rw [ih] at first
    exact first

end Lexeme

/-- What a source lacks besides closing parentheses. -/
def Text.ending (src : Text) : Text :=
  match (tokenize src).getLast? with
  | some last => (Lexeme.ofToken src last).ending
  | none => []

/-- The tokens of a source with its ending and closing parentheses: only its last lexeme has
changed. -/
theorem exists_tokenize_ending {src : Text} (nonempty : src ≠ []) (count : Nat) :
    ∃ before last position closers,
      tokenize src = before ++ place position [last] ∧
      tokenize (src ++ src.ending ++ List.replicate count ')') =
        before ++ place position last.ended ++ closers ∧
      closers.map Token.kind = List.replicate count .closeParen := by
  obtain ⟨before, last, split, whole, ends⟩ := exists_last_of_ne_nil nonempty
  have ending : src.ending = last.ending := by
    have back : (ofText src).getLast? = some last := by rw [split, List.getLast?_concat]
    rw [← Cursor.map_tokenize, List.getLast?_map] at back
    obtain ⟨token, lastToken, same⟩ := Option.map_eq_some_iff.1 back
    rw [Text.ending, lastToken, ← same]
  have closes : BoundedBy (· = ')') (List.replicate count ')') := by
    intro c first
    exact List.eq_of_mem_replicate (List.mem_of_mem_head? first)
  have chain : Chain (before ++ last.ended) (List.replicate count ')') := by
    refine chain_append.2 ⟨chain_of_ofText_eq split ?_, chain_ended ends closes⟩
    simp [flatMap_ended, ends.head?_append]
  have lexemes : ofText (src ++ src.ending ++ List.replicate count ')') =
      before ++ last.ended ++ List.replicate count ⟨.closeParen, [')']⟩ := by
    have found := chain.ofText_append
    rwa [ofText_closers, List.flatMap_append, flatMap_ended, ← List.append_assoc, ← whole,
      ← ending] at found
  refine ⟨place .start before, last, Position.start.advance (before.flatMap Lexeme.text), _,
    by rw [tokenize_eq_place, split, place_append],
    by rw [tokenize_eq_place, lexemes, place_append, place_append], ?_⟩
  rw [map_kind_place, List.map_replicate]

/-- How many forms a token leaves open depends on its kind alone. -/
theorem Progress.exists_take_of_kind {opened : List OpenForm} {token other : Token}
    {progress : Progress} (kind : other.kind = token.kind)
    (taken : take opened token = .ok progress) :
    ∃ progress', take opened other = .ok progress' ∧ progress'.opened = progress.opened := by
  have cases := Progress.taken opened token
  rw [taken] at cases
  cases cases with
  | trivia trivia => exact ⟨_, take_of_taken (.trivia (by rwa [kind])), rfl⟩
  | opens opens room => exact ⟨_, take_of_taken (.opens (by rwa [kind]) room), rfl⟩
  | completes closes => exact ⟨_, take_of_taken (.completes (by rwa [kind])), rfl⟩
  | closes closes => exact ⟨_, take_of_taken (.closes (by rwa [kind])), rfl⟩
  | adds atom => exact ⟨_, take_of_taken (.adds (by rwa [kind])), rfl⟩

/-- Neither spacing nor comments nor atoms are parentheses. -/
theorem TokenKind.not_parenthesis {kind : TokenKind} (other : kind.isTrivia = true ∨ kind ∈ atomKinds) :
    kind ≠ .openParen ∧ kind ≠ .closeParen := by
  revert other
  cases kind <;> decide

/-- The number of open forms goes up with opening and down with closing parentheses, and stays within
its bound. -/
theorem Progress.opened_of_take {opened : List OpenForm} {token : Token} {progress : Progress}
    (taken : take opened token = .ok progress) :
    progress.opened + (if token.kind = .closeParen then 1 else 0) =
        opened.length + (if token.kind = .openParen then 1 else 0) ∧
      (opened.length ≤ maxDepth → progress.opened ≤ maxDepth) := by
  have cases := Progress.taken opened token
  rw [taken] at cases
  cases cases with
  | trivia trivia => simp [TokenKind.not_parenthesis (.inl trivia), Progress.opened]
  | opens opens room => exact ⟨by simp [opens, Progress.opened], fun _ => room⟩
  | completes closes => simp [closes, Progress.opened]
  | closes closes =>
    simp only [closes, Progress.opened, List.length_cons]
    simp
    omega
  | adds atom => simp [TokenKind.not_parenthesis (.inr atom), Progress.opened]

theorem feed_singleton {opened : List OpenForm} {token : Token} {progress : Progress}
    (taken : Progress.take opened token = .ok progress) :
    ∃ later, (feed opened [token]).outcome = .ok later ∧ later.length = progress.opened := by
  cases progress with
  | going later => exact ⟨later, by rw [feed_of_going taken]; rfl, rfl⟩
  | complete node => exact ⟨[], by rw [feed_of_complete taken]; rfl, rfl⟩

/-- Over all tokens: what is open at the end was opened and not closed. -/
theorem feed_opened {opened later : List OpenForm} {tokens : List Token}
    (going : (feed opened tokens).outcome = .ok later) :
    later.length + tokens.countP (·.kind = .closeParen) =
        opened.length + tokens.countP (·.kind = .openParen) ∧
      (opened.length ≤ maxDepth → later.length ≤ maxDepth) := by
  induction tokens generalizing opened with
  | nil =>
    obtain rfl : opened = later := Except.ok.inj going
    simp
  | cons token tokens ih =>
    cases taken : Progress.take opened token with
    | error error => simp [feed_of_error taken] at going
    | ok progress =>
      obtain ⟨middle, first, length⟩ := feed_singleton taken
      obtain ⟨step, bound⟩ := Progress.opened_of_take taken
      rw [show token :: tokens = [token] ++ tokens from rfl, feed_append_of_ok first] at going
      obtain ⟨rest, restBound⟩ := ih going
      rw [length] at rest restBound
      refine ⟨?_, fun within => restBound (bound within)⟩
      simp only [List.countP_cons, decide_eq_true_eq]
      omega

/-- The ending opens and closes no form. -/
theorem feed_ended {opened later : List OpenForm} {position : Position} {last : Lexeme}
    (going : (feed opened (place position [last])).outcome = .ok later) :
    ∃ forms, (feed opened (place position last.ended)).outcome = .ok forms ∧
      forms.length = later.length := by
  let token : Token := .ofText position last.kind last.text
  have alone : (feed opened [token]).outcome = .ok later := going
  by_cases unclosed : last.isUnclosed = true
  · have literal : last.kind = .literal := by
      simp only [isUnclosed, decide_eq_true_eq] at unclosed
      exact unclosed.1
    let closed : Token := .ofText position .literal (last.text ++ [Text.quoteMark])
    have sole : place position last.ended = [closed] := by
      rw [ended, if_pos unclosed]
      rfl
    cases taken : Progress.take opened token with
    | error error => simp [feed_of_error taken] at alone
    | ok progress =>
      obtain ⟨forms, fed, length⟩ := feed_singleton taken
      obtain rfl : forms = later := by simpa [fed] using alone
      have kind : closed.kind = token.kind := literal.symm
      obtain ⟨progress', taken', same⟩ := Progress.exists_take_of_kind kind taken
      obtain ⟨forms', fed', length'⟩ := feed_singleton taken'
      exact ⟨forms', by rw [sole, fed'], by rw [length', same, length]⟩
  · by_cases comment : last.kind = .lineComment
    · let line : Token := .ofText (position.advance last.text) .whitespace ['\n']
      have both : place position last.ended = [token] ++ [line] := by
        rw [ended, if_neg unclosed, if_pos comment]
        rfl
      have skipped : Progress.take later line = .ok (.going later) :=
        Progress.take_of_taken (.trivia rfl)
      exact ⟨later, by rw [both, feed_append_of_ok alone, feed_of_going skipped]; rfl, rfl⟩
    · exact ⟨later, by rwa [ended, if_neg unclosed, if_neg comment], rfl⟩

theorem feed_closers {count : Nat} {closers : List Token}
    (kinds : closers.map Token.kind = List.replicate count .closeParen) (opened : List OpenForm) :
    (feed opened closers).outcome = .ok [] ↔ count = opened.length := by
  induction count generalizing closers opened with
  | zero =>
    obtain rfl : closers = [] := by simpa using kinds
    cases opened <;> simp
  | succ count ih =>
    obtain ⟨token, closers, rfl, closes, kinds⟩ := List.map_eq_cons_iff.1 kinds
    rcases opened with _ | ⟨form, _ | ⟨parent, outer⟩⟩
    · have refused : Progress.take [] token = .error (.unsupported token) :=
        Progress.take_of_taken (.unsupported (by simp [closes, TokenKind.isTrivia]) (by simp [closes]))
      simp [feed_of_error refused]
    · rw [feed_of_complete (Progress.take_of_taken (.completes closes))]
      simpa using ih kinds []
    · rw [feed_of_going (Progress.take_of_taken (.closes closes))]
      simpa using ih kinds (parent.add (form.close token) :: outer)

def ReadError.Unfinished (error : ReadError) : Prop :=
  ∃ expected token, error = .unexpected expected token ∧ token.kind = .endOfInput

/-- Either forms are open at the end of the source, or the error is that of one of its tokens. -/
theorem outcome_of_parse_error {src : Text} {error : ReadError} (failed : parse src = .error error) :
    (error.Unfinished ∧ ∃ form outer, (feed [] (tokenize src)).outcome = .ok (form :: outer)) ∨
      (¬ error.Unfinished ∧ (feed [] (tokenize src)).outcome = .error error) := by
  rw [parse_eq_error_iff, Feed.error?_eq_some] at failed
  rcases failed with failed | ⟨opened, rfl⟩
  · refine .inr ⟨?_, failed⟩
    rintro ⟨expected, token, rfl, ended⟩
    exact (kind_of_mem_tokenize (token_mem_of_feed_error failed)).2 ended
  · exact .inl ⟨⟨_, _, rfl, rfl⟩, opened⟩

theorem exists_parse_iff {src : Text} :
    (∃ nodes, parse src = .ok nodes) ↔ (feed [] (tokenize src)).outcome = .ok [] := by
  rw [parse_eq_feed, Feed.error?]
  rcases (feed [] (tokenize src)).outcome with error | (_ | ⟨form, outer⟩) <;> simp

/-- With its ending, a source is completed by as many closing parentheses as it has left forms
open. -/
theorem exists_parse_closers_iff {src : Text} {opened : List OpenForm}
    (going : (feed [] (tokenize src)).outcome = .ok opened) (inside : opened ≠ []) (count : Nat) :
    (∃ nodes, parse (src ++ src.ending ++ List.replicate count ')') = .ok nodes) ↔
      count = opened.length := by
  have nonempty : src ≠ [] := by
    rintro rfl
    exact inside (Except.ok.inj going).symm
  obtain ⟨before, last, position, closers, short, long, kinds⟩ := exists_tokenize_ending nonempty count
  rw [short] at going
  rcases fed : (feed [] before).outcome with error | middle
  · rw [feed_append_of_error fed, fed] at going
    simp at going
  rw [feed_append_of_ok fed] at going
  obtain ⟨forms, ended, length⟩ := feed_ended going
  have all : (feed [] (before ++ place position last.ended)).outcome = .ok forms := by
    rw [feed_append_of_ok fed]
    exact ended
  rw [exists_parse_iff, long, feed_append_of_ok all, ← length]
  exact feed_closers kinds forms

/-- If a source ends inside of forms, these are the ones opened and not closed, and exactly as many
closing parentheses complete it, after the ending of its last token. After any other error no text
completes it. -/
theorem parse_completion {src : Text} {error : ReadError} (failed : parse src = .error error) :
    (error.Unfinished → ∃ opened, (feed [] (tokenize src)).outcome = .ok opened ∧
      opened.length + (tokenize src).countP (·.kind = .closeParen) =
        (tokenize src).countP (·.kind = .openParen) ∧
      1 ≤ opened.length ∧ opened.length ≤ maxDepth ∧
      ∀ count, (∃ nodes, parse (src ++ src.ending ++ List.replicate count ')') = .ok nodes) ↔
        count = opened.length) ∧
    (¬ error.Unfinished → ∀ more nodes, parse (src ++ more) ≠ .ok nodes) := by
  rcases outcome_of_parse_error failed with ⟨unfinished, form, outer, going⟩ | ⟨other, stopped⟩
  · refine ⟨fun _ => ⟨_, going, ?_⟩, fun finished => absurd unfinished finished⟩
    obtain ⟨balance, bound⟩ := feed_opened going
    refine ⟨by simpa using balance, by simp, bound (by simp), ?_⟩
    exact exists_parse_closers_iff going (List.cons_ne_nil _ _)
  · refine ⟨fun unfinished => absurd unfinished other, fun _ more nodes read => ?_⟩
    obtain ⟨-, later, stillStopped, -⟩ := (extended_tokenize src more).error error stopped
    have closed := exists_parse_iff.1 ⟨nodes, read⟩
    rw [stillStopped] at closed
    cases closed

/-- A literal in a form is completed by a quote and a parenthesis, a word outside of all forms by
nothing. -/
theorem parse_completion_literal :
    let inside : Text := "(f \"x".toList
    let outside : Text := "f".toList
    (∀ count, (∃ nodes, parse (inside ++ inside.ending ++ List.replicate count ')') = .ok nodes) ↔
      count = 1) ∧ ∀ more nodes, parse (outside ++ more) ≠ .ok nodes := by
  intro inside outside
  have unfinished : parse inside =
      .error (.unexpected formKinds ⟨.endOfInput, ⟨0, 0, 0, 0, 5, 5⟩, 0⟩) := by
    rw [parse_eq_feed]
    rfl
  have unsupported : parse outside =
      .error (.unsupported ⟨.identifier, ⟨1, 1, 1, 1, 0, 1⟩, 1⟩) := by
    rw [parse_eq_feed]
    rfl
  constructor
  · obtain ⟨opened, -, balance, -, -, completed⟩ :=
      (parse_completion unfinished).1 ⟨_, _, rfl, rfl⟩
    have one : opened.length = 1 := balance
    rwa [one] at completed
  · refine (parse_completion unsupported).2 ?_
    rintro ⟨expected, token, same, -⟩
    cases same

end SexprCall
