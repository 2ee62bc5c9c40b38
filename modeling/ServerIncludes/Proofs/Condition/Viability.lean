import ServerIncludes.Proofs.Condition.Completeness

/-! Reading stops at the first token that no condition goes on with. As long as it has not stopped,
the tokens so far can be completed, but for a bare word, of which it is not known yet whether it is
compared. What it stops with belongs to the token that is read or to the bare word before that. -/
namespace ServerIncludes.ConditionViability

open ConditionCompleteness ConditionGrammar ConditionReader ConditionSoundness Parts

/-- Tokens that some condition begins with. -/
def Viable (tokens : List Token) : Prop :=
  ∃ more condition, Fits 0 .disjunction (tokens ++ more) condition

/-- Tokens that some condition begins with, or such tokens and a bare word behind them. -/
inductive Usable : List Token → Prop where
  | viable (viable : Viable tokens) : Usable tokens
  | word (viable : Viable tokens) : Usable (tokens ++ [.word content])

/-- A token that compares or searches the value before it. -/
def Relates : Token → Prop
  | .comparison _ => True
  | .search _ => True
  | _ => False

/-- What is read next is an operator, and what stands before it is a bare word. -/
def HoldsWord (expected : Expected) : Prop :=
  ∃ column content, expected = .operator (.word column content)

/-! ## Completing what has been read -/

theorem run_append_ok {state middle : State} (first : run state before = .ok middle)
    (later : run middle after = .ok last) : run state (before ++ after) = .ok last := by
  rw [run_append first, later]

theorem complete_condition (outer : List Level) (level : Level) (condition : Condition) :
    ∃ level' expected last, Ends expected last ∧
      State.complete outer level (.condition condition) = .ok ⟨outer, level', expected⟩ := by
  rw [complete_eq, negated_condition]
  cases compared : level.comparison with
  | none =>
    refine ⟨{ level with negations := 0 },
      .operator (.condition (State.negate condition level.negations)), _, .operator rfl, ?_⟩
    simp only [Except.bind, completed, compared]
  | some pair =>
    obtain ⟨left, comparison⟩ := pair
    refine ⟨{ level with negations := 0, comparison := none }, _,
      .compare comparison left (State.negate condition level.negations), .connective, ?_⟩
    simp only [Except.bind, completed, compared]
    rfl

/-- Closing parentheses complete what has been read up to the end of an operand. -/
theorem completes_of_ends (ends : Ends expected last) (outer : List Level) (level : Level) :
    ∃ more final condition, run ⟨outer, level, expected⟩ more = .ok final ∧
      final.finish 0 = .ok condition := by
  induction outer generalizing level expected last with
  | nil =>
    refine ⟨[], _, level.close last, rfl, ?_⟩
    exact (finish_ok_iff _ 0 _).2 ⟨rfl, last, ends, rfl⟩
  | cons around outer ih =>
    obtain ⟨level', expected', last', ends', complete⟩ :=
      complete_condition outer around (.group (level.close last))
    obtain ⟨more, final, condition, ran, finished⟩ := ih ends' level'
    let closer : Lexeme := ⟨0, [], .rightParen⟩
    have taken : State.take ⟨around :: outer, level, expected⟩ closer =
        .ok ⟨outer, level', expected'⟩ := by
      rw [take_connective ends (.inr (.inr rfl)), ← complete]
      rfl
    exact ⟨closer :: more, final, condition, (run_cons taken more).trans ran, finished⟩

/-- An operand that can stand wherever one is read. -/
def variableX : Lexeme := ⟨0, [], .reference "x"⟩

/-- An operand completes what has been read up to it. -/
theorem completes_operand (outer : List Level) (level : Level) :
    ∃ more final condition, run ⟨outer, level, .operand⟩ (variableX :: more) = .ok final ∧
      final.finish 0 = .ok condition := by
  obtain ⟨level', expected, last, ends, complete⟩ :=
    complete_condition outer level (.reference "x")
  obtain ⟨more, final, condition, ran, finished⟩ := completes_of_ends ends outer level'
  have taken : State.take ⟨outer, level, .operand⟩ variableX =
      .ok ⟨outer, level', expected⟩ := complete
  exact ⟨more, final, condition, (run_cons taken more).trans ran, finished⟩

theorem compiles_empty : (Pattern.ofText? "").isSome = true := by decide +kernel

/-- Unless a bare word is waiting, what has been read can be completed. -/
theorem completes (state : State) (settled : ¬ HoldsWord state.expected) :
    ∃ more final condition, run state more = .ok final ∧ final.finish 0 = .ok condition := by
  obtain ⟨outer, level, expected⟩ := state
  cases expected with
  | operand =>
    obtain ⟨more, final, condition, ran, finished⟩ := completes_operand outer level
    exact ⟨variableX :: more, final, condition, ran, finished⟩
  | operandOrPattern left equal =>
    obtain ⟨more, final, condition, ran, finished⟩ := completes_operand outer
      { level with comparison := some (left, if equal then .equal else .notEqual) }
    have starts : ∀ source, variableX.token ≠ .pattern source := by simp [variableX]
    refine ⟨variableX :: more, final, condition, ?_, finished⟩
    rw [← ran]
    simp only [run, List.foldlM_cons, take_right starts]
  | pattern left wanted =>
    obtain ⟨pattern, compiled⟩ := Option.isSome_iff_exists.1 compiles_empty
    have ends : Ends (.connective (.search wanted left pattern)) _ := .connective
    obtain ⟨more, final, condition, ran, finished⟩ := completes_of_ends ends outer level
    have taken : State.take ⟨outer, level, .pattern left wanted⟩ ⟨0, [], .pattern ""⟩ =
        .ok ⟨outer, level, .connective (.search wanted left pattern)⟩ :=
      take_pattern compiled outer level left wanted
    exact ⟨_, final, condition, (run_cons taken more).trans ran, finished⟩
  | operator operand =>
    cases operand with
    | word column content => exact absurd ⟨column, content, rfl⟩ settled
    | condition condition => exact completes_of_ends (.operator rfl) outer level
  | connective left => exact completes_of_ends .connective outer level

theorem viable_of_run (ran : run State.start lexemes = .ok state)
    (settled : ¬ HoldsWord state.expected) : Viable (lexemes.map (·.token)) := by
  obtain ⟨more, final, condition, completed, finished⟩ := completes state settled
  have fits := fits_of_finish
    (represents_run represents_start (run_append_ok ran completed)) finished
  rw [List.nil_append, List.map_append] at fits
  exact ⟨_, condition, fits⟩

/-! ## Tokens that cannot be used -/

/-- Tokens as they would be read, wherever they stand. -/
def anywhere (tokens : List Token) : List Lexeme := tokens.map fun token => ⟨0, [], token⟩

theorem tokens_anywhere (tokens : List Token) : (anywhere tokens).map (·.token) = tokens := by
  simp [anywhere, Function.comp_def]

theorem finishes_of_fits (fits : Fits 0 .disjunction tokens condition) {lexemes : List Lexeme}
    (read : lexemes.map (·.token) = tokens) :
    ∃ state, run State.start lexemes = .ok state ∧ ∀ length, state.finish length = .ok condition := by
  have within := fits.within
  obtain ⟨level, last, expected, ends, closed, _, _, _, ran⟩ :=
    reaches_of_spells fits.spells lexemes read [] 0 within
  refine ⟨_, ran, fun length => ?_⟩
  exact (finish_ok_iff ⟨[], level, expected⟩ length condition).2 ⟨rfl, last, ends, closed.symm⟩

/-- Where reading stops, no condition goes on. -/
theorem not_viable_of_run (stopped : run State.start lexemes = .error error) :
    ¬ Viable (lexemes.map (·.token)) := by
  rintro ⟨more, condition, fits⟩
  have read : (lexemes ++ anywhere more).map (·.token) = lexemes.map (·.token) ++ more := by
    rw [List.map_append, tokens_anywhere]
  obtain ⟨state, ran, _⟩ := finishes_of_fits fits read
  rw [run, List.foldlM_append] at ran
  obtain ⟨middle, first, _⟩ := ok_of_bind ran
  rw [run] at stopped
  rw [first] at stopped
  cases stopped

/-! ## What a step stops with -/

/-- Faults of a token that no condition goes on with. -/
inductive TokenFault (token : Token) : ConditionFault → Prop where
  | bareWord (isWord : token = .word content) : TokenFault token (.bareWord content)
  | tooDeep : TokenFault token .tooDeep
  | chained (relates : Relates token) : TokenFault token .chained
  | unexpected : TokenFault token (.unexpected token)
  | notPattern : TokenFault token (.notPattern token)
  | notClosed : TokenFault token (.notClosed token)
  | notOperand : TokenFault token (.notOperand token)

/-- Faults of a text that ends too early. -/
inductive EndFault : ConditionFault → Prop where
  | noOperand : EndFault .noOperand
  | noPattern : EndFault .noPattern
  | unbalanced : EndFault .unbalanced

/-- Why a token cannot be taken: for itself, for a marker in it, or for the bare word before it, which
is not compared or has a marker that cannot be read. -/
inductive Blames (expected : Expected) (lexeme : Lexeme) : Nat → ConditionFault → Prop where
  | token (settled : ¬ HoldsWord expected) (own : TokenFault lexeme.token fault) :
    Blames expected lexeme lexeme.column fault
  | text (settled : ¬ HoldsWord expected) (isText : lexeme.token = .text content)
      (unread : Template.parse content = .error error) :
    Blames expected lexeme (lexeme.column + 1 + error.position) (.markerInText error.fault)
  | word (settled : ¬ HoldsWord expected) (isWord : lexeme.token = .word content)
      (unread : Template.parse content = .error error) :
    Blames expected lexeme (lexeme.column + error.position) (.markerInText error.fault)
  | held (held : expected = .operator (.word column content)) (relates : Relates lexeme.token)
      (unread : Template.parse content = .error error) :
    Blames expected lexeme (column + error.position) (.markerInText error.fault)
  | alone (held : expected = .operator (.word column content)) (apart : ¬ Relates lexeme.token) :
    Blames expected lexeme column (.bareWord content)

theorem marker_of_read_text (failed : readText column content = .error (.malformed place fault)) :
    ∃ error, Template.parse content = .error error ∧ place = column + error.position ∧
      fault = .markerInText error.fault := by
  unfold readText at failed
  split at failed
  · cases failed
  · rename_i error unread
    cases failed
    exact ⟨error, unread, rfl, rfl⟩

theorem check_depth_error (failed : State.checkDepth column depth = .error (.malformed place fault)) :
    place = column ∧ fault = .tooDeep := by
  obtain ⟨_, same⟩ | ⟨_, same⟩ := of_ite failed <;> cases same
  exact ⟨rfl, rfl⟩

/-- A step that checks a depth and then goes on fails for the depth. -/
theorem column_of_check_depth {next : State}
    (failed : (State.checkDepth column depth >>= fun _ => pure next) =
      .error (.malformed place fault)) : place = column ∧ fault = .tooDeep := by
  cases checked : State.checkDepth column depth with
  | ok done =>
    rw [checked] at failed
    cases failed
  | error error =>
    rw [checked] at failed
    cases failed
    exact check_depth_error checked

theorem complete_condition_ok (outer : List Level) (level : Level) (condition : Condition)
    (error : ConditionError) :
    State.complete outer level (.condition condition) ≠ .error error := by
  obtain ⟨_, _, _, _, complete⟩ := complete_condition outer level condition
  rw [complete]
  nofun

theorem blames_of_take_operand (settled : ¬ HoldsWord expected)
    (failed : State.takeOperand outer level lexeme.column lexeme.token =
      .error (.malformed place fault)) : Blames expected lexeme place fault := by
  cases isToken : lexeme.token with
  | text content =>
    rw [isToken] at failed
    cases read : readText (lexeme.column + 1) content with
    | ok literal =>
      simp only [State.takeOperand, read] at failed
      exact absurd failed (complete_condition_ok outer level literal _)
    | error error =>
      simp only [State.takeOperand, read] at failed
      cases failed
      obtain ⟨error, unread, rfl, rfl⟩ := marker_of_read_text read
      exact .text settled isToken unread
  | word content =>
    rw [isToken] at failed
    simp only [State.takeOperand, complete_eq] at failed
    by_cases none : level.negations = 0
    · simp only [negated, none, if_true, Except.bind, completed] at failed
      split at failed
      · cases failed
      · simp only [Operand.toValue] at failed
        cases read : readText lexeme.column content with
        | ok right =>
          rw [read] at failed
          cases failed
        | error error =>
          rw [read] at failed
          cases failed
          obtain ⟨error, unread, rfl, rfl⟩ := marker_of_read_text read
          exact .word settled isToken unread
    · simp only [negated, none, if_false, Operand.toCondition] at failed
      cases failed
      exact .token settled (.bareWord isToken)
  | reference name =>
    rw [isToken] at failed
    exact absurd failed (complete_condition_ok outer level (.reference name) _)
  | not =>
    rw [isToken] at failed
    obtain ⟨rfl, rfl⟩ := column_of_check_depth failed
    exact .token settled .tooDeep
  | leftParen =>
    rw [isToken] at failed
    obtain ⟨rfl, rfl⟩ := column_of_check_depth failed
    exact .token settled .tooDeep
  | _ =>
    rw [isToken] at failed
    cases failed
    rw [← isToken]
    exact .token settled .notOperand

theorem column_of_take_connective
    (failed : State.takeConnective outer level left column token = .error (.malformed place fault)) :
    place = column ∧ TokenFault token fault := by
  unfold State.takeConnective at failed
  split at failed
  · obtain ⟨here, rfl⟩ := column_of_check_depth failed
    exact ⟨here, .tooDeep⟩
  · obtain ⟨here, rfl⟩ := column_of_check_depth failed
    exact ⟨here, .tooDeep⟩
  · split at failed
    · cases failed
      exact ⟨rfl, .unexpected⟩
    · split at failed
      · exact absurd failed (complete_condition_ok _ _ _ _)
      · cases failed
        exact ⟨rfl, .notClosed⟩

theorem not_malformed_of_take_pattern :
    State.takePattern outer level left wanted source ≠ .error (.malformed place fault) := by
  unfold State.takePattern
  split <;> nofun

/-- A token that compares or searches takes the operand before it as a value. -/
theorem take_relates (relates : Relates lexeme.token) (outer : List Level) (level : Level)
    (operand : Operand) :
    ∃ next : Condition → State, (∀ left, ¬ HoldsWord (next left).expected) ∧
      State.take ⟨outer, level, .operator operand⟩ lexeme =
        operand.toValue >>= fun left => pure (next left) := by
  obtain ⟨column, source, token⟩ := lexeme
  cases token with
  | comparison comparison =>
    cases comparison with
    | equal => exact ⟨_, fun _ => by rintro ⟨_, _, ⟨⟩⟩, rfl⟩
    | notEqual => exact ⟨_, fun _ => by rintro ⟨_, _, ⟨⟩⟩, rfl⟩
    | _ => exact ⟨_, fun _ => by rintro ⟨_, _, ⟨⟩⟩, rfl⟩
  | search wanted => exact ⟨_, fun _ => by rintro ⟨_, _, ⟨⟩⟩, rfl⟩
  | _ => exact relates.elim

/-- Any other token takes it as a condition. -/
theorem take_apart (apart : ¬ Relates lexeme.token) (outer : List Level) (level : Level)
    (operand : Operand) :
    State.take ⟨outer, level, .operator operand⟩ lexeme = operand.toCondition >>= fun left =>
      State.takeConnective outer level left lexeme.column lexeme.token := by
  obtain ⟨column, source, token⟩ := lexeme
  cases token with
  | comparison comparison => exact absurd trivial apart
  | search wanted => exact absurd trivial apart
  | _ => rfl

theorem blames_of_take_operator
    (failed : State.take ⟨outer, level, .operator operand⟩ lexeme = .error (.malformed place fault)) :
    Blames (.operator operand) lexeme place fault := by
  by_cases relates : Relates lexeme.token
  · obtain ⟨next, -, taken⟩ := take_relates relates outer level operand
    rw [taken] at failed
    cases operand with
    | condition condition => cases failed
    | word column content =>
      cases read : readText column content with
      | ok left =>
        simp only [Operand.toValue, read] at failed
        cases failed
      | error error =>
        simp only [Operand.toValue, read] at failed
        cases failed
        obtain ⟨error, unread, rfl, rfl⟩ := marker_of_read_text read
        exact .held rfl relates unread
  · rw [take_apart relates] at failed
    cases operand with
    | condition condition =>
      obtain ⟨rfl, own⟩ := column_of_take_connective failed
      exact .token (by rintro ⟨_, _, ⟨⟩⟩) own
    | word column content =>
      cases failed
      exact .alone rfl relates

/-- What a token that cannot be taken is reported with. -/
theorem blames_of_take {state : State} (failed : state.take lexeme = .error (.malformed place fault)) :
    Blames state.expected lexeme place fault := by
  obtain ⟨outer, level, expected⟩ := state
  cases expected with
  | operand => exact blames_of_take_operand (by rintro ⟨_, _, ⟨⟩⟩) failed
  | operandOrPattern left equal =>
    have settled : ¬ HoldsWord (.operandOrPattern left equal) := by rintro ⟨_, _, ⟨⟩⟩
    simp only [State.take] at failed
    split at failed
    · exact absurd failed not_malformed_of_take_pattern
    · exact blames_of_take_operand settled failed
  | pattern left wanted =>
    have settled : ¬ HoldsWord (.pattern left wanted) := by rintro ⟨_, _, ⟨⟩⟩
    simp only [State.take] at failed
    split at failed
    · exact absurd failed not_malformed_of_take_pattern
    · exact absurd failed not_malformed_of_take_pattern
    · cases failed
      exact .token settled .notPattern
  | operator operand => exact blames_of_take_operator failed
  | connective left =>
    have settled : ¬ HoldsWord (.connective left) := by rintro ⟨_, _, ⟨⟩⟩
    simp only [State.take] at failed
    split at failed
    · rename_i isToken
      cases failed
      exact .token settled (.chained (by rw [isToken]; trivial))
    · rename_i isToken
      cases failed
      exact .token settled (.chained (by rw [isToken]; trivial))
    · obtain ⟨rfl, own⟩ := column_of_take_connective failed
      exact .token settled own

/-- Behind an operand only parentheses can be missing. -/
theorem unbalanced_of_finish
    (failed : State.finish ⟨outer, level, .connective left⟩ length =
      .error (.malformed place fault)) : place = length ∧ fault = .unbalanced := by
  cases outer with
  | nil => cases failed
  | cons around outer =>
    cases failed
    exact ⟨rfl, rfl⟩

/-- What the end of a text is reported with: its length, or the bare word before it. -/
theorem column_of_finish {state : State}
    (failed : state.finish length = .error (.malformed place fault)) :
    (place = length ∧ EndFault fault ∧ ¬ HoldsWord state.expected) ∨
      ∃ content, state.expected = .operator (.word place content) ∧ fault = .bareWord content := by
  obtain ⟨outer, level, expected⟩ := state
  cases expected with
  | operand =>
    cases failed
    exact .inl ⟨rfl, .noOperand, by rintro ⟨_, _, ⟨⟩⟩⟩
  | operandOrPattern value equal =>
    cases failed
    exact .inl ⟨rfl, .noOperand, by rintro ⟨_, _, ⟨⟩⟩⟩
  | pattern value wanted =>
    cases failed
    exact .inl ⟨rfl, .noPattern, by rintro ⟨_, _, ⟨⟩⟩⟩
  | connective value =>
    obtain ⟨here, rfl⟩ := unbalanced_of_finish failed
    exact .inl ⟨here, .unbalanced, by rintro ⟨_, _, ⟨⟩⟩⟩
  | operator operand =>
    cases operand with
    | condition condition =>
      have closing : State.finish ⟨outer, level, .connective condition⟩ length =
        .error (.malformed place fault) := failed
      obtain ⟨here, rfl⟩ := unbalanced_of_finish closing
      exact .inl ⟨here, .unbalanced, by rintro ⟨_, _, ⟨⟩⟩⟩
    | word column content =>
      cases failed
      exact .inr ⟨content, rfl, rfl⟩

/-! ## Bare words that wait -/

theorem operand_of_complete (complete : State.complete outer level operand = .ok next)
    (held : next.expected = .operator (.word column content)) : operand = .word column content := by
  rw [complete_eq] at complete
  obtain ⟨whole, read, done⟩ := ok_of_bind complete
  unfold completed at done
  split at done
  · cases done
    cases held
    unfold negated at read
    split at read
    · cases read
      rfl
    · obtain ⟨inner, _, same⟩ := ok_of_map read
      cases same
  · obtain ⟨right, _, rfl⟩ := ok_of_map done
    cases held

theorem not_held_of_take_connective
    (taken : State.takeConnective outer level left column token = .ok next)
    (held : next.expected = .operator (.word place content)) : False := by
  unfold State.takeConnective at taken
  split at taken
  · obtain ⟨_, _, done⟩ := ok_of_bind taken
    cases done
    cases held
  · obtain ⟨_, _, done⟩ := ok_of_bind taken
    cases done
    cases held
  · split at taken
    · cases taken
    · split at taken
      · cases operand_of_complete taken held
      · cases taken

theorem not_held_of_take_pattern
    (taken : State.takePattern outer level left wanted source = .ok next)
    (held : next.expected = .operator (.word place content)) : False := by
  unfold State.takePattern at taken
  split at taken
  · cases taken
  · cases taken
    cases held

theorem word_of_take_operand {lexeme : Lexeme}
    (taken : State.takeOperand outer level lexeme.column lexeme.token = .ok next)
    (held : next.expected = .operator (.word column content)) :
    lexeme.token = .word content ∧ lexeme.column = column := by
  cases isToken : lexeme.token with
  | word found =>
    rw [isToken] at taken
    cases operand_of_complete taken held
    exact ⟨rfl, rfl⟩
  | text found =>
    rw [isToken] at taken
    obtain ⟨literal, _, done⟩ := ok_of_bind taken
    cases operand_of_complete done held
  | reference name =>
    rw [isToken] at taken
    cases operand_of_complete taken held
  | not =>
    rw [isToken] at taken
    obtain ⟨_, _, done⟩ := ok_of_bind taken
    cases done
    cases held
  | leftParen =>
    rw [isToken] at taken
    obtain ⟨_, _, done⟩ := ok_of_bind taken
    cases done
    cases held
  | _ =>
    rw [isToken] at taken
    cases taken

/-- A bare word that waits was the last token, and none waited before it. -/
theorem word_of_take {state next : State} (taken : state.take lexeme = .ok next)
    (held : next.expected = .operator (.word column content)) :
    lexeme.token = .word content ∧ lexeme.column = column ∧ ¬ HoldsWord state.expected := by
  obtain ⟨outer, level, expected⟩ := state
  cases expected with
  | operand =>
    obtain ⟨isWord, here⟩ := word_of_take_operand taken held
    exact ⟨isWord, here, by rintro ⟨_, _, ⟨⟩⟩⟩
  | operandOrPattern left equal =>
    simp only [State.take] at taken
    split at taken
    · exact (not_held_of_take_pattern taken held).elim
    · obtain ⟨isWord, here⟩ := word_of_take_operand taken held
      exact ⟨isWord, here, by rintro ⟨_, _, ⟨⟩⟩⟩
  | pattern left wanted =>
    simp only [State.take] at taken
    split at taken
    · exact (not_held_of_take_pattern taken held).elim
    · exact (not_held_of_take_pattern taken held).elim
    · cases taken
  | operator operand =>
    by_cases relates : Relates lexeme.token
    · obtain ⟨next, settled, same⟩ := take_relates relates outer level operand
      rw [same] at taken
      obtain ⟨left, _, done⟩ := ok_of_bind taken
      cases done
      exact absurd ⟨_, _, held⟩ (settled left)
    · rw [take_apart relates] at taken
      obtain ⟨left, _, connected⟩ := ok_of_bind taken
      exact (not_held_of_take_connective connected held).elim
  | connective left =>
    simp only [State.take] at taken
    split at taken
    · cases taken
    · cases taken
    · exact (not_held_of_take_connective taken held).elim

/-! ## Runs -/

/-- The tokens before a bare word that waits, which is the last of those that were read. -/
theorem word_of_run (ran : run State.start lexemes = .ok state)
    (held : state.expected = .operator (.word column content)) :
    ∃ earlier lexeme, lexemes = earlier ++ [lexeme] ∧ lexeme.token = .word content ∧
      lexeme.column = column ∧ Viable (earlier.map (·.token)) := by
  rcases List.eq_nil_or_concat lexemes with rfl | ⟨earlier, lexeme, rfl⟩
  · cases ran
    cases held
  · rw [List.concat_eq_append] at ran ⊢
    rw [run, List.foldlM_append] at ran
    obtain ⟨middle, before, taken⟩ := ok_of_bind ran
    rw [← run, run_singleton] at taken
    obtain ⟨isWord, here, settled⟩ := word_of_take taken held
    exact ⟨earlier, lexeme, rfl, isWord, here, viable_of_run before settled⟩

theorem usable_of_run (ran : run State.start lexemes = .ok state) :
    Usable (lexemes.map (·.token)) := by
  by_cases held : HoldsWord state.expected
  · obtain ⟨column, content, held⟩ := held
    obtain ⟨earlier, lexeme, rfl, isWord, _, viable⟩ := word_of_run ran held
    rw [List.map_append, List.map_singleton, isWord]
    exact .word viable
  · exact .viable (viable_of_run ran held)

/-- A run stops at one of its lexemes. -/
theorem lexeme_of_run {state : State} (stopped : run state lexemes = .error error) :
    ∃ earlier lexeme later middle, lexemes = earlier ++ lexeme :: later ∧
      run state earlier = .ok middle ∧ middle.take lexeme = .error error := by
  induction lexemes generalizing state with
  | nil => cases stopped
  | cons lexeme lexemes ih =>
    cases taken : state.take lexeme with
    | error other =>
      rw [run, List.foldlM_cons, taken] at stopped
      cases stopped
      exact ⟨[], lexeme, lexemes, state, rfl, rfl, taken⟩
    | ok next =>
      rw [run_cons taken] at stopped
      obtain ⟨earlier, last, later, middle, rfl, ran, failed⟩ := ih stopped
      exact ⟨lexeme :: earlier, last, later, middle, rfl, (run_cons taken earlier).trans ran, failed⟩

end ServerIncludes.ConditionViability
