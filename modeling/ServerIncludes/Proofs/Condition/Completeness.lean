import ServerIncludes.Proofs.Condition.Soundness

/-! All that the grammar spells is read as the condition spelled, unless the depth counted goes
beyond the limit. Reading a part can begin in any level that is ready for the part, and it ends in
the same level with the part to the left of the next operator. -/
namespace ServerIncludes.ConditionCompleteness

open ConditionReader ConditionGrammar ConditionSoundness

/-! ## Reading what is spelled -/

theorem check_depth_of_le (within : depth ≤ maxDepth) (column : Nat) :
    State.checkDepth column depth = .ok () := by
  unfold State.checkDepth
  exact if_neg (by omega)

theorem negate_not (condition : Condition) (count : Nat) :
    State.negate (.not condition) count = State.negate condition (count + 1) := by
  induction count with
  | zero => rfl
  | succ count ih => exact congrArg Condition.not ih

theorem negated_condition (condition : Condition) (count : Nat) :
    negated (.condition condition) count = .ok (.condition (State.negate condition count)) := by
  cases count <;> rfl

/-- A negation is one more in the level that reads it. -/
theorem complete_not (outer : List Level) (level : Level) (condition : Condition) :
    State.complete outer { level with negations := level.negations + 1 } (.condition condition) =
      State.complete outer level (.condition (.not condition)) := by
  rw [complete_eq, complete_eq, negated_condition, negated_condition, negate_not]
  rfl

theorem complete_of_idle (idle : Idle level) (outer : List Level) (operand : Operand) :
    State.complete outer level operand = .ok ⟨outer, level, .operator operand⟩ := by
  obtain ⟨depth, above, disjuncts, beside, conjuncts, compared, negations⟩ := level
  obtain ⟨none, zero⟩ := idle
  cases none
  cases zero
  rfl

/-- The right side of a comparison completes it. -/
theorem complete_right (idle : Idle level) (outer : List Level) (first : Condition)
    (comparison : Comparison) (read : operand.toValue = .ok second) :
    State.complete outer { level with comparison := some (first, comparison) } operand =
      .ok ⟨outer, level, .connective (.compare comparison first second)⟩ := by
  obtain ⟨depth, above, disjuncts, beside, conjuncts, compared, negations⟩ := level
  obtain ⟨none, zero⟩ := idle
  cases none
  cases zero
  rw [complete_eq]
  simp [negated, completed, read, Except.bind, Except.map]

theorem take_right (starts : ∀ source, lexeme.token ≠ .pattern source) (outer : List Level)
    (level : Level) (first : Condition) (equal : Bool) :
    State.take ⟨outer, level, .operandOrPattern first equal⟩ lexeme =
      State.take ⟨outer, { level with
        comparison := some (first, if equal then .equal else .notEqual) }, .operand⟩ lexeme := by
  simp only [State.take]

/-- Where a value is compared, its right side is read as an operand of the level. -/
theorem run_comparison (read : operand.toValue = .ok first)
    (isOperator : operator.token = .comparison comparison)
    (starts : ∀ source, lexeme.token ≠ .pattern source) (outer : List Level) (level : Level)
    (lexemes : List Lexeme) :
    run ⟨outer, level, .operator operand⟩ (operator :: lexeme :: lexemes) =
      run ⟨outer, { level with comparison := some (first, comparison) }, .operand⟩
        (lexeme :: lexemes) := by
  by_cases isEqual : comparison = .equal
  · subst isEqual
    have taken : State.take ⟨outer, level, .operator operand⟩ operator =
        .ok ⟨outer, level, .operandOrPattern first true⟩ := by
      simp only [State.take, isOperator, read]
      rfl
    rw [run_cons taken]
    simp only [run, List.foldlM_cons, take_right starts, if_true]
  by_cases isNotEqual : comparison = .notEqual
  · subst isNotEqual
    have taken : State.take ⟨outer, level, .operator operand⟩ operator =
        .ok ⟨outer, level, .operandOrPattern first false⟩ := by
      simp only [State.take, isOperator, read]
      rfl
    rw [run_cons taken]
    simp only [run, List.foldlM_cons, take_right starts, Bool.false_eq_true, if_false]
  · refine run_cons ?_ (lexeme :: lexemes)
    cases comparison with
    | equal => exact absurd rfl isEqual
    | notEqual => exact absurd rfl isNotEqual
    | _ =>
      simp only [State.take, isOperator, read]
      rfl

/-- A logical operator or closing parenthesis takes what stands before it. -/
theorem take_connective (ends : Ends expected last)
    (logical : lexeme.token = .and ∨ lexeme.token = .or ∨ lexeme.token = .rightParen)
    (outer : List Level) (level : Level) :
    State.take ⟨outer, level, expected⟩ lexeme =
      State.takeConnective outer level last lexeme.column lexeme.token := by
  cases ends with
  | operator read =>
    obtain isAnd | isOr | isParen := logical
    · simp only [State.take, isAnd, read]
      rfl
    · simp only [State.take, isOr, read]
      rfl
    · simp only [State.take, isParen, read]
      rfl
  | connective =>
    obtain isAnd | isOr | isParen := logical
    · simp only [State.take, isAnd]
    · simp only [State.take, isOr]
    · simp only [State.take, isParen]

/-- What reading the tokens of a part leads to, wherever the part may begin. -/
def Reaches (condition : Condition) (lexemes : List Lexeme) : Rank → Prop
  | .operand => ∀ outer level, level.innerDepth + counted condition ≤ maxDepth →
    run ⟨outer, level, .operand⟩ lexemes = State.complete outer level (.condition condition)
  | .value => ∀ outer level, level.negations = 0 →
    level.innerDepth + counted condition ≤ maxDepth →
    ∃ operand : Operand, operand.toValue = .ok condition ∧
      run ⟨outer, level, .operand⟩ lexemes = State.complete outer level operand
  | .comparison => ∀ outer level, Idle level → level.innerDepth + counted condition ≤ maxDepth →
    ∃ expected, Ends expected condition ∧
      run ⟨outer, level, .operand⟩ lexemes = .ok ⟨outer, level, expected⟩
  | .conjunction => ∀ outer level, Idle level → level.conjunction = none → level.conjuncts = 0 →
    level.innerDepth + counted condition ≤ maxDepth →
    ∃ beside last expected, Ends expected last ∧
      Level.conjoin { level with
        conjunction := beside, conjuncts := conjunctions condition } last = condition ∧
      run ⟨outer, level, .operand⟩ lexemes = .ok ⟨outer, { level with
        conjunction := beside, conjuncts := conjunctions condition }, expected⟩
  | .disjunction => ∀ outer depth, depth + counted condition ≤ maxDepth →
    ∃ level last expected, Ends expected last ∧ level.close last = condition ∧
      level.depth = depth ∧ level.disjuncts = disjunctions condition ∧ Idle level ∧
      run ⟨outer, Level.start depth, .operand⟩ lexemes = .ok ⟨outer, level, expected⟩

theorem reaches_text (parsed : Template.parse content = .ok template)
    (isText : lexeme.token = .text content) : Reaches (.literal template) [lexeme] .operand := by
  intro outer level _
  have read : readText (lexeme.column + 1) content = .ok (.literal template) := by
    unfold readText
    rw [parsed]
  rw [run_singleton]
  simp only [State.take, State.takeOperand, isText, read]
  rfl

theorem reaches_reference (isReference : lexeme.token = .reference name) :
    Reaches (.reference name) [lexeme] .operand := by
  intro outer level _
  rw [run_singleton]
  simp only [State.take, State.takeOperand, isReference]

theorem reaches_word (parsed : Template.parse content = .ok template)
    (isWord : lexeme.token = .word content) : Reaches (.literal template) [lexeme] .value := by
  intro outer level _ _
  refine ⟨.word lexeme.column content, ?_, ?_⟩
  · simp only [Operand.toValue, readText, parsed]
  · rw [run_singleton]
    simp only [State.take, State.takeOperand, isWord]

theorem reaches_not (isNot : lexeme.token = .not) (inner : Reaches condition lexemes .operand) :
    Reaches (.not condition) (lexeme :: lexemes) .operand := by
  intro outer level within
  simp only [counted] at within
  have checked : State.checkDepth lexeme.column (level.innerDepth + 1) = .ok () :=
    check_depth_of_le (by omega) lexeme.column
  have taken : State.take ⟨outer, level, .operand⟩ lexeme =
      .ok ⟨outer, { level with negations := level.negations + 1 }, .operand⟩ := by
    simp only [State.take, State.takeOperand, isNot, checked]
    rfl
  have deeper : Level.innerDepth { level with negations := level.negations + 1 } =
      level.innerDepth + 1 := rfl
  rw [run_cons taken, inner outer _ (by omega), complete_not]

/-- What stands between parentheses is read from a level of its own. -/
theorem reaches_group (isOpener : opener.token = .leftParen) (isCloser : closer.token = .rightParen)
    (inner : Reaches condition lexemes .disjunction) :
    Reaches (.group condition) (opener :: lexemes ++ [closer]) .operand := by
  intro outer level within
  simp only [counted] at within
  have checked : State.checkDepth opener.column (level.innerDepth + 1) = .ok () :=
    check_depth_of_le (by omega) opener.column
  have opened : State.take ⟨outer, level, .operand⟩ opener =
      .ok ⟨level :: outer, Level.start (level.innerDepth + 1), .operand⟩ := by
    simp only [State.take, State.takeOperand, isOpener, checked]
    rfl
  obtain ⟨within', last, expected, ends, closed, _, _, _, ran⟩ :=
    inner (level :: outer) (level.innerDepth + 1) (by omega)
  have closing : State.take ⟨level :: outer, within', expected⟩ closer =
      State.complete outer level (.condition (.group condition)) := by
    rw [take_connective ends (.inr (.inr isCloser)), isCloser, ← closed]
    rfl
  rw [List.cons_append, run_cons opened, run_append ran, run_singleton, closing]

/-- An operand that is compared is a value. -/
theorem reaches_operand (inner : Reaches condition lexemes .operand) :
    Reaches condition lexemes .value := by
  intro outer level _ within
  exact ⟨.condition condition, rfl, inner outer level within⟩

theorem reaches_alone (inner : Reaches condition lexemes .operand) :
    Reaches condition lexemes .comparison := by
  intro outer level idle within
  refine ⟨.operator (.condition condition), .operator rfl, ?_⟩
  rw [inner outer level within, complete_of_idle idle]

/-- A value that is compared or searched is read up to its operator. -/
theorem run_value (value : Reaches condition lexemes .value) (idle : Idle level)
    (within : level.innerDepth + counted condition ≤ maxDepth) (outer : List Level) :
    ∃ operand : Operand, operand.toValue = .ok condition ∧
      run ⟨outer, level, .operand⟩ lexemes = .ok ⟨outer, level, .operator operand⟩ := by
  obtain ⟨operand, read, ran⟩ := value outer level idle.2 within
  rw [complete_of_idle idle] at ran
  exact ⟨operand, read, ran⟩

theorem reaches_compare (isOperator : operator.token = .comparison comparison)
    (starts : ∀ source, lexeme.token ≠ .pattern source) (left : Reaches first before .value)
    (right : Reaches second (lexeme :: after) .value) :
    Reaches (.compare comparison first second) (before ++ operator :: lexeme :: after)
      .comparison := by
  intro outer level idle within
  simp only [counted] at within
  obtain ⟨operand, read, ran⟩ := run_value left idle (by omega) outer
  obtain ⟨operand', read', ran'⟩ :=
    right outer { level with comparison := some (first, comparison) } idle.2
      (show level.innerDepth + counted second ≤ maxDepth by omega)
  refine ⟨.connective (.compare comparison first second), .connective, ?_⟩
  rw [run_append ran, run_comparison read isOperator starts, ran', complete_right idle _ _ _ read']

theorem take_pattern (compiled : Pattern.ofText? source = some pattern) (outer : List Level)
    (level : Level) (condition : Condition) (wanted : Bool) :
    State.takePattern outer level condition wanted source =
      .ok ⟨outer, level, .connective (.search wanted condition pattern)⟩ := by
  simp only [State.takePattern, compiled]

/-- The operator of a search and its pattern, after the value that is searched. -/
theorem run_search (read : operand.toValue = .ok condition)
    (searches : Searches source wanted [operator.token, lexeme.token])
    (compiled : Pattern.ofText? source = some pattern) (outer : List Level) (level : Level) :
    run ⟨outer, level, .operator operand⟩ [operator, lexeme] =
      .ok ⟨outer, level, .connective (.search wanted condition pattern)⟩ := by
  have found := take_pattern compiled outer level condition wanted
  obtain ⟨column, spelled, operator⟩ := operator
  obtain ⟨column', spelled', token⟩ := lexeme
  cases searches <;>
    simp [run, State.take, read, found, bind, Except.bind, pure, Except.pure]

theorem reaches_search (subject : Reaches condition before .value)
    (searches : Searches source wanted [operator.token, lexeme.token])
    (compiled : Pattern.ofText? source = some pattern) :
    Reaches (.search wanted condition pattern) (before ++ [operator, lexeme]) .comparison := by
  intro outer level idle within
  obtain ⟨operand, read, ran⟩ := run_value subject idle within outer
  refine ⟨.connective (.search wanted condition pattern), .connective, ?_⟩
  rw [run_append ran, run_search read searches compiled]

/-- A comparison is a chain of `&&` with nothing to its left. -/
theorem reaches_comparison (alone : conjunctions condition = 0)
    (inner : Reaches condition lexemes .comparison) : Reaches condition lexemes .conjunction := by
  intro outer level idle begins zero within
  obtain ⟨expected, ends, ran⟩ := inner outer level idle within
  have same : { level with conjunction := none, conjuncts := conjunctions condition } = level := by
    rw [alone, ← begins, ← zero]
  refine ⟨none, condition, expected, ends, rfl, ?_⟩
  rw [same, ran]

theorem reaches_and (isOperator : operator.token = .and)
    (left : Reaches first before .conjunction) (right : Reaches second after .comparison) :
    Reaches (.and first second) (before ++ operator :: after) .conjunction := by
  intro outer level idle begins zero within
  simp only [counted] at within
  obtain ⟨beside, last, expected, ends, joined, ran⟩ :=
    left outer level idle begins zero (by omega)
  have deep : level.innerDepth + (conjunctions first + 1) = Level.innerDepth { level with
      conjunction := some first, conjuncts := conjunctions first + 1 } := by
    simp only [Level.innerDepth, zero]
    omega
  have checked : State.checkDepth operator.column (Level.innerDepth { level with
      conjunction := beside, conjuncts := conjunctions first } + 1) = .ok () := by
    refine check_depth_of_le ?_ operator.column
    simp only [Level.innerDepth] at deep within ⊢
    omega
  have taken : State.take ⟨outer, { level with
        conjunction := beside, conjuncts := conjunctions first }, expected⟩ operator =
      .ok ⟨outer, { level with
        conjunction := some first, conjuncts := conjunctions first + 1 }, .operand⟩ := by
    rw [take_connective ends (.inl isOperator), isOperator]
    simp only [State.takeConnective, checked, joined]
    rfl
  obtain ⟨expected', ends', ran'⟩ := right outer { level with
    conjunction := some first, conjuncts := conjunctions first + 1 } idle (by omega)
  refine ⟨some first, second, expected', ends', rfl, ?_⟩
  rw [run_append ran, run_cons taken, ran']
  rfl

/-- A conjunction is a chain of `||` with nothing to its left. -/
theorem reaches_conjunction (alone : disjunctions condition = 0)
    (inner : Reaches condition lexemes .conjunction) :
    Reaches condition lexemes .disjunction := by
  intro outer depth within
  obtain ⟨beside, last, expected, ends, joined, ran⟩ :=
    inner outer (Level.start depth) ⟨rfl, rfl⟩ rfl rfl within
  exact ⟨⟨depth, none, 0, beside, conjunctions condition, none, 0⟩, last, expected, ends, joined,
    rfl, alone.symm, ⟨rfl, rfl⟩, ran⟩

theorem reaches_or (isOperator : operator.token = .or)
    (left : Reaches first before .disjunction) (right : Reaches second after .conjunction) :
    Reaches (.or first second) (before ++ operator :: after) .disjunction := by
  intro outer depth within
  simp only [counted] at within
  obtain ⟨level, last, expected, ends, closed, rfl, count, idle, ran⟩ :=
    left outer depth (by omega)
  have checked : State.checkDepth operator.column (level.depth + disjunctions first + 1) = .ok () :=
    check_depth_of_le (by omega) operator.column
  have taken : State.take ⟨outer, level, expected⟩ operator =
      .ok ⟨outer, ⟨level.depth, some first, disjunctions first + 1, none, 0, none, 0⟩,
        .operand⟩ := by
    rw [take_connective ends (.inr (.inl isOperator)), isOperator]
    simp only [State.takeConnective, closed, count, checked, idle.1, idle.2]
    rfl
  have deep : Level.innerDepth
      ⟨level.depth, some first, disjunctions first + 1, none, 0, none, 0⟩ =
      level.depth + (disjunctions first + 1) := rfl
  obtain ⟨beside, last', expected', ends', joined, ran'⟩ :=
    right outer ⟨level.depth, some first, disjunctions first + 1, none, 0, none, 0⟩ ⟨rfl, rfl⟩
      rfl rfl (by omega)
  refine ⟨⟨level.depth, some first, disjunctions first + 1, beside, conjunctions second, none, 0⟩,
    last', expected', ends', congrArg (Condition.or first) joined, rfl, rfl, ⟨rfl, rfl⟩, ?_⟩
  rw [run_append ran, run_cons taken, ran']

/-- Reading goes along with spelling, part by part. -/
theorem reaches_of_spells (spells : Spells rank tokens condition) (lexemes : List Lexeme)
    (read : lexemes.map (·.token) = tokens) : Reaches condition lexemes rank := by
  induction spells generalizing lexemes with
  | text parsed =>
    obtain ⟨lexeme, rfl, isText⟩ := List.map_eq_singleton_iff.1 read
    exact reaches_text parsed isText
  | reference =>
    obtain ⟨lexeme, rfl, isReference⟩ := List.map_eq_singleton_iff.1 read
    exact reaches_reference isReference
  | not inner ih =>
    obtain ⟨lexeme, rest, rfl, isNot, restTokens⟩ := List.map_eq_cons_iff.1 read
    exact reaches_not isNot (ih rest restTokens)
  | group inner ih =>
    rw [List.cons_append] at read
    obtain ⟨opener, rest, rfl, isOpener, read⟩ := List.map_eq_cons_iff.1 read
    obtain ⟨inside, closing, rfl, insideTokens, read⟩ := List.map_eq_append_iff.1 read
    obtain ⟨closer, rfl, isCloser⟩ := List.map_eq_singleton_iff.1 read
    exact reaches_group isOpener isCloser (ih inside insideTokens)
  | word parsed =>
    obtain ⟨lexeme, rfl, isWord⟩ := List.map_eq_singleton_iff.1 read
    exact reaches_word parsed isWord
  | operand operand ih => exact reaches_operand (ih lexemes read)
  | alone operand ih => exact reaches_alone (ih lexemes read)
  | compare left right leftReaches rightReaches =>
    obtain ⟨before, rest, rfl, beforeTokens, read⟩ := List.map_eq_append_iff.1 read
    obtain ⟨operator, after, rfl, isOperator, afterTokens⟩ := List.map_eq_cons_iff.1 read
    obtain ⟨first, others, same, starts⟩ := first_of_value right
    have after_reaches := rightReaches after afterTokens
    rw [same] at afterTokens
    obtain ⟨lexeme, later, rfl, isFirst, _⟩ := List.map_eq_cons_iff.1 afterTokens
    rw [← isFirst] at starts
    exact reaches_compare isOperator starts (leftReaches before beforeTokens) after_reaches
  | @search tokens condition source expected test pattern subject searches compiled ih =>
    obtain ⟨before, rest, rfl, beforeTokens, read⟩ := List.map_eq_append_iff.1 read
    obtain ⟨first, second, rfl⟩ := two_of_searches searches
    obtain ⟨operator, last, rfl, rfl, lastTokens⟩ := List.map_eq_cons_iff.1 read
    obtain ⟨lexeme, rfl, rfl⟩ := List.map_eq_singleton_iff.1 lastTokens
    exact reaches_search (ih before beforeTokens) searches compiled
  | comparison comparison ih =>
    exact reaches_comparison (conjunctions_of_comparison comparison) (ih lexemes read)
  | and left right leftReaches rightReaches =>
    obtain ⟨before, rest, rfl, beforeTokens, read⟩ := List.map_eq_append_iff.1 read
    obtain ⟨operator, after, rfl, isOperator, afterTokens⟩ := List.map_eq_cons_iff.1 read
    exact reaches_and isOperator (leftReaches before beforeTokens)
      (rightReaches after afterTokens)
  | conjunction conjunction ih =>
    exact reaches_conjunction (disjunctions_of_conjunction conjunction) (ih lexemes read)
  | or left right leftReaches rightReaches =>
    obtain ⟨before, rest, rfl, beforeTokens, read⟩ := List.map_eq_append_iff.1 read
    obtain ⟨operator, after, rfl, isOperator, afterTokens⟩ := List.map_eq_cons_iff.1 read
    exact reaches_or isOperator (leftReaches before beforeTokens)
      (rightReaches after afterTokens)

/-! ## Texts -/

/-- Reading a text is reading its tokens, if it has no faults and is not empty. -/
theorem parse_of_faultless (faultless : (Lexemes.scan 0 text.toList).fault = none)
    (nonempty : (Lexemes.scan 0 text.toList).list ≠ []) :
    Condition.parse text = (run State.start (Lexemes.scan 0 text.toList).list).bind
      fun state => state.finish text.utf8ByteSize := by
  simp only [Condition.parse, readLexemes, faultless, List.isEmpty_iff, nonempty, if_false]
  rfl

/-- A text is read as a condition exactly if it spells the condition, and no deeper than the limit
as the depth is counted. -/
theorem parse_ok_iff (text : String) (condition : Condition) :
    Condition.parse text = .ok condition ↔
      Spelled text condition ∧ counted condition ≤ maxDepth := by
  constructor
  · intro parsed
    obtain ⟨state, ran, finished⟩ := Parts.ok_of_bind parsed
    cases faultless : (Lexemes.scan 0 text.toList).fault with
    | some fault =>
      rw [faultless] at finished
      cases finished
    | none =>
      simp only [faultless] at finished
      split at finished
      · cases finished
      · have fits := fits_of_finish (represents_run represents_start ran) finished
        have within := fits.within
        exact ⟨⟨faultless, fits.spells⟩, by omega⟩
  · rintro ⟨⟨faultless, spells⟩, within⟩
    have nonempty : (Lexemes.scan 0 text.toList).list ≠ [] := by
      intro empty
      exact spells_ne_nil spells (by rw [empty]; rfl)
    obtain ⟨level, last, expected, ends, closed, _, _, _, ran⟩ :=
      reaches_of_spells spells _ rfl [] 0 (by omega)
    have finished := (finish_ok_iff ⟨[], level, expected⟩ text.utf8ByteSize condition).2
      ⟨rfl, last, ends, closed.symm⟩
    rw [parse_of_faultless faultless nonempty]
    simp only [State.start, ran, Except.bind, finished]

end ServerIncludes.ConditionCompleteness
