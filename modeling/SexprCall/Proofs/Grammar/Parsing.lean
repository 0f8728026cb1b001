import SexprCall.Proofs.Grammar.Derivation

/-! Parsing accepts what the grammar derives, and gives the one list of nodes that derives it. Along the
way the tokens behind each open form derive its cells. -/
namespace SexprCall.Grammar

open Node

/-- Cells are added to the innermost form, which stays open. -/
theorem feed_cells {cells : List Node} {tokens : List Token} (derived : Derives cells tokens)
    (form : OpenForm) (outer : List OpenForm) (rest : List Token)
    (shallow : depthAll cells + (form :: outer).length ≤ maxDepth) :
    feed (form :: outer) (tokens ++ rest) = feed (form.addAll cells :: outer) rest := by
  induction cells, tokens, derived using Derives.induction_cells generalizing form outer rest with
  | nil => rfl
  | atom token cells tokens kind _ ih =>
    have adds : Progress.take (form :: outer) token =
        .ok (.going (form.add (.ofToken token) :: outer)) := Progress.take_of_taken (.adds kind)
    rw [depthAll_cons] at shallow
    rw [List.cons_append, feed_of_going adds, ih _ _ _ (by simp only [List.length_cons] at *; omega)]
    rfl
  | parenthesized opening cells inside closing nodes tokens opens _ closes _ ihInside ih =>
    rw [depthAll_cons, depth_ofCells] at shallow
    simp only [List.length_cons] at shallow
    have room : (form :: outer).length < maxDepth := by simp only [List.length_cons]; omega
    rw [List.cons_append, List.append_assoc, List.cons_append,
      feed_of_going (Progress.take_of_taken (.opens opens room)),
      ihInside _ _ _ (by simp only [List.length_cons]; omega),
      feed_of_going (Progress.take_of_taken (.closes closes)),
      ih _ _ _ (by simp only [List.length_cons]; omega)]
    simp [OpenForm.addAll_cells, OpenForm.add, OpenForm.close]

/-- What is derived within the depth allowed is read. -/
theorem feed_derived {nodes : List Node} {tokens : List Token} (derived : Derives nodes tokens)
    (parenthesized : ∀ node ∈ nodes, node.isParenthesized = true)
    (shallow : depthAll nodes ≤ maxDepth) : feed [] tokens = ⟨nodes, .ok [], []⟩ := by
  induction nodes, tokens, derived using Derives.induction_cells with
  | nil => rfl
  | atom token nodes tokens _ _ _ =>
    have atom := parenthesized _ List.mem_cons_self
    simp [Node.ofToken, isParenthesized] at atom
  | parenthesized opening cells inside closing nodes tokens opens derived closes _ _ ih =>
    rw [depthAll_cons, depth_ofCells] at shallow
    have later := ih (fun node member => parenthesized node (List.mem_cons_of_mem _ member)) (by omega)
    rw [feed_of_going (Progress.take_of_taken (.opens opens (by decide))),
      feed_cells derived _ _ _ (by simp only [List.length_cons, List.length_nil]; omega),
      feed_of_complete (Progress.take_of_taken (.completes closes)), later]
    simp [OpenForm.addAll_cells, OpenForm.close]

/-- The tokens behind open forms: of each form the parenthesis and what derives its cells. -/
inductive Begun : List OpenForm → List Token → Prop where
  | nil : Begun [] []
  | cons {paren cells inside outer before} : paren.kind = .openParen →
      Derives cells.reverse inside → depthAll cells + outer.length + 1 ≤ maxDepth →
      Begun outer before → Begun (⟨paren, cells⟩ :: outer) (before ++ paren :: inside)

theorem Begun.add {form : OpenForm} {outer : List OpenForm} {before tokens : List Token}
    {node : Node} (begun : Begun (form :: outer) before) (derived : Derives [node] tokens)
    (shallow : node.depth + outer.length + 1 ≤ maxDepth) :
    Begun (form.add node :: outer) (before ++ tokens) := by
  cases begun with
  | @cons paren cells inside _ behind opens cellsDerived bound begun =>
    have derives : Derives (node :: cells).reverse (inside ++ tokens) := by
      simpa using cellsDerived.append derived
    have bounded : depthAll (node :: cells) + outer.length + 1 ≤ maxDepth := by
      rw [depthAll_cons]
      omega
    simpa [OpenForm.add] using Begun.cons opens derives bounded begun

/-- A token that is taken goes behind the open forms, or completes a node that is derived. -/
theorem Begun.take {opened : List OpenForm} {before : List Token} (begun : Begun opened before)
    {token : Token} (means : token.kind.isTrivia = false) {progress : Progress}
    (taken : Progress.take opened token = .ok progress) :
    match progress with
    | .going later => Begun later (before ++ [token])
    | .complete node => Derives [node] (before ++ [token]) ∧
        node.isParenthesized = true ∧ node.depth ≤ maxDepth := by
  have cases := Progress.taken opened token
  rw [taken] at cases
  cases cases with
  | trivia trivia => simp [means] at trivia
  | opens opens room => exact .cons opens .nil (by simpa [Nat.succ_le_iff] using room) begun
  | completes closes =>
    cases begun with
    | cons opens derived shallow outer =>
      cases outer
      refine ⟨?_, by simp [OpenForm.close], by simpa [OpenForm.close] using shallow⟩
      simpa [OpenForm.close] using Derives.parenthesized opens derived closes .nil
  | closes closes =>
    cases begun with
    | cons opens derived shallow outer =>
      have node := Derives.parenthesized opens derived closes .nil
      have bound := shallow
      simp only [List.length_cons] at bound
      simpa [OpenForm.close] using outer.add node (by simp only [depth_ofCells, depthAll_reverse]; omega)
  | adds kind =>
    refine begun.add (.atom kind .nil) ?_
    cases begun with
    | cons _ _ shallow _ =>
      simp only [ofToken, depth]
      omega

/-- What is read is derived. -/
theorem Begun.derives_feed {opened : List OpenForm} {before tokens : List Token}
    (begun : Begun opened before) (means : ∀ token ∈ tokens, token.kind.isTrivia = false)
    (ended : (feed opened tokens).outcome = .ok []) :
    Derives (feed opened tokens).nodes (before ++ tokens) ∧
      ∀ node ∈ (feed opened tokens).nodes, node.isParenthesized = true ∧ node.depth ≤ maxDepth := by
  induction tokens generalizing opened before with
  | nil =>
    obtain rfl : opened = [] := by simpa using ended
    cases begun
    exact ⟨.nil, by simp⟩
  | cons token tokens ih =>
    have later := fun token member => means token (List.mem_cons_of_mem _ member)
    cases taken : Progress.take opened token with
    | error error => simp [feed_of_error taken] at ended
    | ok progress =>
      have step := begun.take (means token List.mem_cons_self) taken
      cases progress with
      | going opened =>
        rw [feed_of_going taken] at ended ⊢
        simpa using ih step later ended
      | complete node =>
        rw [feed_of_complete taken] at ended ⊢
        obtain ⟨derived, shape⟩ := ih .nil later ended
        refine ⟨by simpa using step.1.append derived, ?_⟩
        intro other member
        rcases List.mem_cons.1 member with rfl | member
        · exact step.2
        · exact shape other member

theorem parse_eq_ok_iff_feed {src : Text} {nodes : List Node} :
    parse src = .ok nodes ↔
      (feed [] (significant (tokenize src))).outcome = .ok [] ∧
        (feed [] (significant (tokenize src))).nodes = nodes := by
  obtain ⟨sameNodes, sameOutcome⟩ := feed_significant [] (tokenize src)
  rw [parse_eq_feed, sameNodes, sameOutcome, Feed.error?]
  rcases (feed [] (tokenize src)).outcome with error | (_ | ⟨form, outer⟩) <;> simp

theorem derives_of_parse {src : Text} {nodes : List Node} (read : parse src = .ok nodes) :
    Derives nodes (significant (tokenize src)) ∧
      ∀ node ∈ nodes, node.isParenthesized = true ∧ node.depth ≤ maxDepth := by
  obtain ⟨ended, rfl⟩ := parse_eq_ok_iff_feed.1 read
  have means : ∀ token ∈ significant (tokenize src), token.kind.isTrivia = false := by
    simp [significant]
  simpa using Begun.nil.derives_feed means ended

theorem parse_of_derives {src : Text} {nodes : List Node}
    (derived : Derives nodes (significant (tokenize src)))
    (shape : ∀ node ∈ nodes, node.isParenthesized = true ∧ node.depth ≤ maxDepth) :
    parse src = .ok nodes := by
  have shallow : depthAll nodes ≤ maxDepth :=
    depthAll_le_iff.2 fun node member => (shape node member).2
  have fed := feed_derived derived (fun node member => (shape node member).1) shallow
  exact parse_eq_ok_iff_feed.2 ⟨by rw [fed], by rw [fed]⟩

/-- A source is read if and only if nodes with parentheses, no deeper than allowed, derive its tokens;
these nodes are what is read. No other nodes derive the tokens, whatever their depth. -/
theorem parse_eq_ok_iff (src : Text) (nodes : List Node) :
    (parse src = .ok nodes ↔
      Derives nodes (significant (tokenize src)) ∧
        ∀ node ∈ nodes, node.isParenthesized = true ∧ node.depth ≤ maxDepth) ∧
    ∀ others, Derives nodes (significant (tokenize src)) →
      Derives others (significant (tokenize src)) → others = nodes := by
  refine ⟨⟨derives_of_parse, ?_⟩, ?_⟩
  · rintro ⟨derived, shape⟩
    exact parse_of_derives derived shape
  · intro others derived derived'
    exact derived'.unique derived

/-- A form across two lines with an atom, a comment that holds a parenthesis, and an empty list. -/
theorem parse_commented_form :
    let src := "(f ;)\n())".toList
    let word := ⟨.identifier, ⟨1, 2, 1, 2, 1, 2⟩, 1⟩
    let nodes := [.form (.atom .symbol word word.span) [.emptyList ⟨2, 1, 2, 2, 6, 8⟩]
      ⟨1, 1, 2, 3, 0, 9⟩]
    parse src = .ok nodes ∧ Derives nodes (significant (tokenize src)) ∧
      ∀ others, Derives others (significant (tokenize src)) → others = nodes := by
  intro src word nodes
  let paren (row col offset : Nat) (kind : TokenKind) : Token :=
    ⟨kind, ⟨row, col, row, col, offset, offset + 1⟩, 1⟩
  have tokens : significant (tokenize src) = [paren 1 1 0 .openParen, word,
      paren 2 1 6 .openParen, paren 2 2 7 .closeParen, paren 2 3 8 .closeParen] := by decide
  have empty := @Derives.emptyList (paren 2 1 6 .openParen) (paren 2 2 7 .closeParen) _ _ rfl rfl .nil
  have cells : Derives _ (word :: _) := .symbol (by decide) empty
  have derived : Derives nodes (significant (tokenize src)) := by
    rw [tokens]
    exact @Derives.form (paren 1 1 0 .openParen) _ _ _ (paren 2 3 8 .closeParen) _ _ rfl cells rfl .nil
  obtain ⟨read, only⟩ := parse_eq_ok_iff src nodes
  exact ⟨read.2 ⟨derived, by simp [nodes, isParenthesized, depth, maxDepth]⟩, derived,
    fun others => only others derived⟩

end SexprCall.Grammar
