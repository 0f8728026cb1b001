import SexprCall.Proofs.Cursor.Location
import SexprCall.Proofs.Grammar.Parsing
import SexprCall.Proofs.Reader.Progress

/-! The order of what happens while a source is read. The tokens come in rows, one row for each node, and a
node comes right after the parenthesis that closes it. -/
namespace SexprCall

open Grammar Cursor

structure Grammar.Completes (node : Node) (tokens : List Token) : Prop where
  derived : Derives [node] (significant tokens)
  parenthesized : node.isParenthesized = true
  shallow : node.depth ≤ maxDepth

structure Row where
  inside : List Token
  closing : Token
  node : Node
  closes : closing.kind = .closeParen
  completes : Completes node (inside ++ [closing])

namespace Row

def tokens (row : Row) : List Token := row.inside ++ [row.closing]

def events (row : Row) : List Event := row.tokens.map .token ++ [.node row.node]

end Row

/-- The tokens in rows and behind them are those that are used up until the source ends or reading fails.
Nothing behind the last row completes a node. -/
structure RowsOf (src : Text) (rows : List Row) (rest : List Token) : Prop where
  front : rows.flatMap Row.tokens ++ rest <+: tokenize src
  incomplete : ∀ tokens node, tokens <+: rest → ¬ Completes node tokens
  read : ∀ nodes, parse src = .ok nodes →
    rows.flatMap Row.tokens ++ rest = tokenize src ∧ rows.map Row.node = nodes
  failed : ∀ error, parse src = .error error →
    (rows.flatMap Row.tokens ++ rest).getLast? = some error.token ∨
      rows.flatMap Row.tokens ++ rest = tokenize src ∧ error.token = endToken src

namespace Grammar

/-- Tokens that complete a node are read as this node and nothing else. -/
theorem Completes.fed {node : Node} {tokens : List Token} (completes : Completes node tokens) :
    (feed [] tokens).nodes = [node] ∧ (feed [] tokens).outcome = .ok [] := by
  obtain ⟨derived, parenthesized, shallow⟩ := completes
  have fed : feed [] (significant tokens) = ⟨[node], .ok [], []⟩ := by
    apply feed_derived derived
    · simpa using parenthesized
    · exact Node.depthAll_le_iff.2 (by simpa using shallow)
  obtain ⟨nodes, outcome⟩ := feed_significant [] tokens
  rw [← nodes, ← outcome, fed]
  exact ⟨rfl, rfl⟩

end Grammar

namespace Reader

end Reader

/-- Tokens that leave everything as it was are spacing and comments. -/
theorem significant_eq_nil_of_feed {tokens : List Token} (nodes : (feed [] tokens).nodes = [])
    (outcome : (feed [] tokens).outcome = .ok []) : significant tokens = [] := by
  obtain ⟨sameNodes, sameOutcome⟩ := feed_significant [] tokens
  have means : ∀ token ∈ significant tokens, token.kind.isTrivia = false := by simp [significant]
  obtain ⟨derived, -⟩ := Begun.nil.derives_feed means (sameOutcome.trans outcome)
  rw [sameNodes, nodes, List.nil_append] at derived
  generalize significant tokens = left at derived
  cases derived
  rfl

theorem Row.fed (row : Row) :
    (feed [] row.tokens).nodes = [row.node] ∧ (feed [] row.tokens).outcome = .ok [] :=
  row.completes.fed

/-- No row goes on behind another one, as it ends with a token that means something. -/
theorem Row.eq_of_append {row other : Row} {more : List Token}
    (split : other.tokens = row.tokens ++ more) : row = other ∧ more = [] := by
  obtain ⟨nodes, outcome⟩ := row.fed
  obtain ⟨nodes', outcome'⟩ := other.fed
  rw [split, feed_append_of_ok outcome] at nodes' outcome'
  simp only [nodes, List.singleton_append, List.cons.injEq] at nodes' outcome'
  obtain ⟨sameNode, noMore⟩ := nodes'
  have trivia := significant_eq_nil_of_feed noMore outcome'
  rcases List.eq_nil_or_concat more with rfl | ⟨front, last, rfl⟩
  · obtain ⟨inside, closing, node, closes, completes⟩ := row
    obtain ⟨inside', closing', node', closes', completes'⟩ := other
    obtain ⟨rfl, rfl⟩ : inside' = inside ∧ closing' = closing := by
      simpa [tokens] using split
    obtain rfl : node = node' := sameNode
    exact ⟨rfl, rfl⟩
  · rw [List.concat_eq_append] at split trivia
    have ends : other.inside ++ [other.closing] = row.tokens ++ front ++ [last] := by
      rw [List.append_assoc, ← split, tokens]
    obtain rfl : other.closing = last := List.singleton_inj.1 (List.append_inj' ends rfl).2
    have means : other.closing.kind.isTrivia = false := by
      rw [other.closes]
      rfl
    rw [significant_append, significant_cons means] at trivia
    simp at trivia

theorem Row.unique {row other : Row} {rest rest' : List Token}
    (same : row.tokens ++ rest = other.tokens ++ rest') : row = other ∧ rest = rest' := by
  rcases List.append_eq_append_iff.1 same with ⟨more, split, left⟩ | ⟨more, split, left⟩
  · obtain ⟨rfl, rfl⟩ := Row.eq_of_append split
    exact ⟨rfl, left⟩
  · obtain ⟨rfl, rfl⟩ := Row.eq_of_append split
    exact ⟨rfl, left.symm⟩

/-- Tokens come in one way in rows only. -/
theorem rows_unique {rows others : List Row} {rest rest' : List Token}
    (same : rows.flatMap Row.tokens ++ rest = others.flatMap Row.tokens ++ rest')
    (incomplete : ∀ tokens node, tokens <+: rest → ¬ Completes node tokens)
    (incomplete' : ∀ tokens node, tokens <+: rest' → ¬ Completes node tokens) :
    rows = others ∧ rest = rest' := by
  induction rows generalizing others with
  | nil =>
    cases others with
    | nil => exact ⟨rfl, same⟩
    | cons other others =>
      have front : other.tokens <+: rest := ⟨others.flatMap Row.tokens ++ rest', by simpa using same.symm⟩
      exact absurd other.completes (incomplete _ _ front)
  | cons row rows ih =>
    cases others with
    | nil =>
      have front : row.tokens <+: rest' := ⟨rows.flatMap Row.tokens ++ rest, by simpa using same⟩
      exact absurd row.completes (incomplete' _ _ front)
    | cons other others =>
      simp only [List.flatMap_cons, List.append_assoc] at same
      obtain ⟨rfl, left⟩ := Row.unique same
      obtain ⟨rfl, rfl⟩ := ih left
      exact ⟨rfl, rfl⟩

/-- Without repetitions, nothing comes after the last element. -/
theorem eq_nil_of_last_append {α : Type} {front more : List α} {last : α} (nodup : (front ++ more).Nodup)
    (ends : front.getLast? = some last) (ends' : (front ++ more).getLast? = some last) : more = [] := by
  rcases back : more.getLast? with _ | other
  · exact List.getLast?_eq_none_iff.1 back
  · obtain rfl : other = last := by simpa [List.getLast?_append, back] using ends'
    have apart := (List.nodup_append.1 nodup).2.2
    exact absurd rfl (apart other (List.mem_of_getLast? ends) other (List.mem_of_getLast? back))

theorem eq_of_last {α : Type} {whole first second : List α} {last : α} (nodup : whole.Nodup)
    (front : first <+: whole) (front' : second <+: whole) (ends : first.getLast? = some last)
    (ends' : second.getLast? = some last) : first = second := by
  rcases List.prefix_or_prefix_of_prefix front front' with ⟨more, rfl⟩ | ⟨more, rfl⟩
  · have none := eq_nil_of_last_append (nodup.sublist front'.sublist) ends ends'
    rw [none, List.append_nil]
  · have none := eq_nil_of_last_append (nodup.sublist front.sublist) ends' ends
    rw [none, List.append_nil]

/-- How a source is read in rows is settled by the source. -/
theorem RowsOf.unique {src : Text} {rows others : List Row} {rest rest' : List Token}
    (rowsOf : RowsOf src rows rest) (rowsOf' : RowsOf src others rest') :
    rows = others ∧ rest = rest' := by
  refine rows_unique ?_ rowsOf.incomplete rowsOf'.incomplete
  rcases parsed : parse src with error | nodes
  · have inside {tokens : List Token} (front : tokens <+: tokenize src)
        (last : tokens.getLast? = some error.token) : error.token ≠ endToken src := by
      have member := front.subset (List.mem_of_getLast? last)
      intro ended
      rw [ended] at member
      exact (kind_of_mem_tokenize member).2 rfl
    rcases rowsOf.failed error parsed with last | ⟨all, ended⟩ <;>
      rcases rowsOf'.failed error parsed with last' | ⟨all', ended'⟩
    · exact eq_of_last (tiles_tokenize src).nodup rowsOf.front rowsOf'.front last last'
    · exact absurd ended' (inside rowsOf.front last)
    · exact absurd ended (inside rowsOf'.front last')
    · exact all.trans all'.symm
  · exact (rowsOf.read nodes parsed).1.trans (rowsOf'.read nodes parsed).1.symm

end SexprCall
