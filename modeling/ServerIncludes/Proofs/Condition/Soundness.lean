import ServerIncludes.Proofs.Condition.Grammar
import ServerIncludes.Proofs.Parts

/-! Only what the grammar spells is read as a condition. Between two tokens a state stands for those
read so far: the open levels, each with what is to the left of its operators, and what the next
token may go on. Every step keeps that, and the depth counted with it. -/
namespace ServerIncludes.ConditionSoundness

open ConditionReader ConditionGrammar Parts

/-! ## What a state stands for -/

/-- What stands to the left of the last operator of a chain, the number of operators in the chain,
and the tokens up to and with the last operator. -/
inductive Joins (depth : Nat) (rank : Rank) (operator : Token) (joints : Condition → Nat) :
    Option Condition → Nat → List Token → Prop where
  | nothing : Joins depth rank operator joints none 0 []
  | left (left : Fits depth rank tokens condition) :
    Joins depth rank operator joints (some condition) (joints condition + 1) (tokens ++ [operator])

/-- The left side and the operator of a comparison, and the tokens of both. -/
inductive Compares (depth : Nat) : Option (Condition × Comparison) → List Token → Prop where
  | nothing : Compares depth none []
  | left (left : Fits depth .value tokens condition) :
    Compares depth (some (condition, comparison)) (tokens ++ [.comparison comparison])

/-- The tokens that a level holds, up to the operand that is read next. -/
inductive Holds : Level → List Token → Prop where
  | mk (disjunction : Joins depth .disjunction .or disjunctions above disjuncts before)
      (conjunction : Joins (depth + disjuncts) .conjunction .and conjunctions beside conjuncts
        between)
      (comparison : Compares (depth + disjuncts + conjuncts) compared tested)
      (within : depth + disjuncts + conjuncts + negations ≤ maxDepth) :
    Holds ⟨depth, above, disjuncts, beside, conjuncts, compared, negations⟩
      (before ++ between ++ tested ++ List.replicate negations .not)

/-- The tokens that open levels hold, each up to and with its parenthesis, and the depth within. -/
inductive Encloses : List Level → Nat → List Token → Prop where
  | top : Encloses [] 0 []
  | level (holds : Holds level tokens) (around : Encloses outer level.depth before) :
    Encloses (level :: outer) (level.innerDepth + 1) (before ++ tokens ++ [.leftParen])

/-- The tokens of an operand. -/
inductive Stands (depth : Nat) : Operand → List Token → Prop where
  | word : Stands depth (.word column content) [.word content]
  | condition (fits : Fits depth .operand tokens condition) :
    Stands depth (.condition condition) tokens

/-- The tokens of what stands before an operator that is read next or has been read last. -/
inductive Awaits (depth : Nat) : Expected → List Token → Prop where
  | operandOrPattern (left : Fits depth .value tokens condition) :
    Awaits depth (.operandOrPattern condition equal)
      (tokens ++ [.comparison (if equal then .equal else .notEqual)])
  | pattern (left : Fits depth .value tokens condition) :
    Awaits depth (.pattern condition expected) (tokens ++ [.search expected])
  | operator (stands : Stands depth operand tokens) : Awaits depth (.operator operand) tokens
  | connective (left : Fits depth .comparison tokens condition) :
    Awaits depth (.connective condition) tokens

/-- A level in which no comparison and no negation waits for its operand. -/
def Idle (level : Level) : Prop := level.comparison = none ∧ level.negations = 0

/-- The tokens that have been read. -/
inductive Represents : State → List Token → Prop where
  | operand (holds : Holds level tokens) (around : Encloses outer level.depth before) :
    Represents ⟨outer, level, .operand⟩ (before ++ tokens)
  | after (holds : Holds level tokens) (around : Encloses outer level.depth before)
      (idle : Idle level) (awaits : Awaits level.innerDepth expected last) :
    Represents ⟨outer, level, expected⟩ (before ++ tokens ++ last)

theorem fits_of_to_condition (stands : Stands depth operand tokens)
    (read : operand.toCondition = .ok condition) : Fits depth .operand tokens condition := by
  cases stands with
  | word => cases read
  | condition fits =>
    cases read
    exact fits

/-- A text that is read is a literal. -/
theorem read_text_ok (read : readText column content = .ok condition) :
    ∃ template, Template.parse content = .ok template ∧ condition = .literal template := by
  unfold readText at read
  cases parsed : Template.parse content with
  | error error =>
    rw [parsed] at read
    cases read
  | ok template =>
    rw [parsed] at read
    cases read
    exact ⟨template, rfl, rfl⟩

theorem fits_of_to_value (stands : Stands depth operand tokens) (within : depth ≤ maxDepth)
    (read : operand.toValue = .ok condition) : Fits depth .value tokens condition := by
  cases stands with
  | word =>
    obtain ⟨template, parsed, rfl⟩ := read_text_ok read
    exact ⟨.word parsed, within⟩
  | condition fits =>
    cases read
    exact ⟨.operand fits.spells, fits.within⟩

/-- A comparison ends the conjunction that a level reads. -/
theorem fits_conjoin {level : Level}
    (conjunction : Joins depth .conjunction .and conjunctions level.conjunction level.conjuncts
      between)
    (last : Fits (depth + level.conjuncts) .comparison tokens condition) :
    Fits depth .conjunction (between ++ tokens) (level.conjoin condition) ∧
      conjunctions (level.conjoin condition) = level.conjuncts := by
  obtain ⟨_, _, _, beside, conjuncts, _, _⟩ := level
  cases conjunction with
  | nothing => exact ⟨⟨.comparison last.spells, last.within⟩, conjunctions_of_comparison last.spells⟩
  | left left =>
    rw [List.append_assoc]
    exact ⟨fits_and left last, rfl⟩

/-- A conjunction ends the disjunction that a level reads. -/
theorem fits_disjoin {level : Level}
    (disjunction : Joins depth .disjunction .or disjunctions level.disjunction level.disjuncts
      before)
    (last : Fits (depth + level.disjuncts) .conjunction tokens (level.conjoin condition)) :
    Fits depth .disjunction (before ++ tokens) (level.close condition) ∧
      disjunctions (level.close condition) = level.disjuncts := by
  obtain ⟨_, above, disjuncts, _, _, _, _⟩ := level
  cases disjunction with
  | nothing =>
    exact ⟨⟨.conjunction last.spells, last.within⟩, disjunctions_of_conjunction last.spells⟩
  | left left =>
    rw [List.append_assoc]
    exact ⟨fits_or left last, rfl⟩

/-- An operand with as many negations before it; a bare word cannot be negated. -/
def negated (operand : Operand) (count : Nat) : Except ConditionError Operand :=
  if count = 0 then .ok operand
  else operand.toCondition.map fun inner => .condition (State.negate inner count)

/-- What is read once an operand, its negations included, is complete. -/
def completed (outer : List Level) (level : Level) (operand : Operand) :
    Except ConditionError State :=
  match level.comparison with
  | none => .ok ⟨outer, { level with negations := 0 }, .operator operand⟩
  | some (left, comparison) =>
    operand.toValue.map fun right =>
      ⟨outer, { level with negations := 0, comparison := none },
        .connective (.compare comparison left right)⟩

theorem complete_eq (outer : List Level) (level : Level) (operand : Operand) :
    State.complete outer level operand =
      (negated operand level.negations).bind (completed outer level) := by
  unfold State.complete negated completed
  by_cases none : level.negations = 0
  · simp only [none, if_true]
    cases level.comparison with
    | none => rfl
    | some pair => cases operand.toValue <;> rfl
  · simp only [none, if_false]
    cases operand.toCondition with
    | error error => rfl
    | ok inner =>
      cases level.comparison with
      | none => rfl
      | some pair => rfl

theorem stands_negated (stands : Stands (depth + count) operand tokens)
    (read : negated operand count = .ok whole) :
    Stands depth whole (List.replicate count .not ++ tokens) := by
  unfold negated at read
  by_cases none : count = 0
  · subst none
    cases read
    exact stands
  · rw [if_neg none] at read
    cases inner : operand.toCondition with
    | error error =>
      rw [inner] at read
      cases read
    | ok condition =>
      rw [inner] at read
      cases read
      exact .condition (fits_negate (fits_of_to_condition stands inner))

/-! ## One step -/

theorem represents_complete (holds : Holds level tokens)
    (around : Encloses outer level.depth before) (stands : Stands level.innerDepth operand last)
    (complete : State.complete outer level operand = .ok next) :
    Represents next (before ++ tokens ++ last) := by
  rw [complete_eq] at complete
  cases read : negated operand level.negations with
  | error error =>
    rw [read] at complete
    cases complete
  | ok whole =>
    rw [read] at complete
    cases holds with
    | @mk depth above disjuncts earlier beside conjuncts between compared tested negations
        disjunction conjunction comparison within =>
      have shallow : depth + disjuncts + conjuncts ≤ maxDepth := by omega
      have operand : Stands (depth + disjuncts + conjuncts) whole
          (List.replicate negations .not ++ last) := stands_negated stands read
      have idle : Holds ⟨depth, above, disjuncts, beside, conjuncts, none, 0⟩
          (earlier ++ between ++ [] ++ List.replicate 0 .not) :=
        .mk disjunction conjunction .nothing shallow
      cases comparison with
      | nothing =>
        cases complete
        simpa using Represents.after idle around ⟨rfl, rfl⟩ (.operator operand)
      | @left tested first relation left =>
        cases value : whole.toValue with
        | error error =>
          simp only [completed, value, Except.bind] at complete
          cases complete
        | ok right =>
          simp only [completed, value, Except.bind] at complete
          cases complete
          have compared : Fits (depth + disjuncts + conjuncts) .comparison
              (tested ++ .comparison relation :: (List.replicate negations .not ++ last))
              (.compare relation first right) :=
            fits_compare left (fits_of_to_value operand shallow value)
          simpa using Represents.after idle around ⟨rfl, rfl⟩ (.connective compared)

theorem check_depth_ok (checked : State.checkDepth column depth = .ok ()) : depth ≤ maxDepth := by
  unfold State.checkDepth at checked
  by_cases deeper : maxDepth < depth
  · rw [if_pos deeper] at checked
    cases checked
  · omega

/-- A level is within the limit wherever an operand is read in it. -/
theorem within_of_holds (holds : Holds level tokens) : level.innerDepth ≤ maxDepth := by
  cases holds with
  | mk disjunction conjunction comparison within => exact within

theorem holds_negation (holds : Holds level tokens) (within : level.innerDepth + 1 ≤ maxDepth) :
    Holds { level with negations := level.negations + 1 } (tokens ++ [.not]) := by
  cases holds with
  | mk disjunction conjunction comparison shallower =>
    rw [List.append_assoc, ← List.replicate_succ']
    exact .mk disjunction conjunction comparison within

theorem holds_start (within : depth ≤ maxDepth) : Holds (Level.start depth) [] :=
  .mk .nothing .nothing .nothing within

theorem represents_take_operand (holds : Holds level tokens)
    (around : Encloses outer level.depth before)
    (taken : State.takeOperand outer level column token = .ok next) :
    Represents next (before ++ tokens ++ [token]) := by
  have within := within_of_holds holds
  cases token with
  | text content =>
    obtain ⟨literal, read, complete⟩ := ok_of_bind taken
    obtain ⟨template, parsed, rfl⟩ := read_text_ok read
    exact represents_complete holds around (.condition ⟨.text parsed, within⟩) complete
  | reference name => exact represents_complete holds around (.condition ⟨.reference, within⟩) taken
  | word content => exact represents_complete holds around .word taken
  | not =>
    obtain ⟨_, checked, done⟩ := ok_of_bind taken
    cases done
    rw [List.append_assoc]
    exact .operand (holds_negation holds (check_depth_ok checked)) around
  | leftParen =>
    obtain ⟨_, checked, done⟩ := ok_of_bind taken
    cases done
    simpa using Represents.operand (holds_start (check_depth_ok checked)) (.level holds around)
  | pattern _ => cases taken
  | comparison _ => cases taken
  | search _ => cases taken
  | and => cases taken
  | or => cases taken
  | rightParen => cases taken

/-- A level that is idle holds what is to the left of its operators, and nothing else. -/
theorem joins_of_idle (holds : Holds level tokens) (idle : Idle level) :
    ∃ before between, tokens = before ++ between ∧
      Joins level.depth .disjunction .or disjunctions level.disjunction level.disjuncts before ∧
      Joins (level.depth + level.disjuncts) .conjunction .and conjunctions level.conjunction
        level.conjuncts between ∧
      level.innerDepth = level.depth + level.disjuncts + level.conjuncts := by
  cases holds with
  | @mk depth above disjuncts before beside conjuncts between compared tested negations
      disjunction conjunction comparison within =>
    obtain ⟨alone, zero⟩ := idle
    cases alone
    cases zero
    cases comparison
    exact ⟨before, between, by simp, disjunction, conjunction, rfl⟩

/-- A comparison ends what a level reads. -/
theorem fits_close (holds : Holds level tokens) (idle : Idle level)
    (last : Fits level.innerDepth .comparison more condition) :
    Fits level.depth .disjunction (tokens ++ more) (level.close condition) ∧
      disjunctions (level.close condition) = level.disjuncts := by
  obtain ⟨before, between, rfl, disjunction, conjunction, deep⟩ := joins_of_idle holds idle
  rw [deep] at last
  rw [List.append_assoc]
  exact fits_disjoin disjunction (fits_conjoin conjunction last).1

theorem holds_and (holds : Holds level tokens) (idle : Idle level)
    (last : Fits level.innerDepth .comparison more condition)
    (within : level.innerDepth + 1 ≤ maxDepth) :
    Holds { level with
      conjunction := some (level.conjoin condition), conjuncts := level.conjuncts + 1 }
      (tokens ++ more ++ [.and]) := by
  obtain ⟨before, between, rfl, disjunction, conjunction, deep⟩ := joins_of_idle holds idle
  rw [deep] at last within
  obtain ⟨joined, count⟩ := fits_conjoin conjunction last
  have joins : Joins (level.depth + level.disjuncts) .conjunction .and conjunctions
      (some (level.conjoin condition)) (level.conjuncts + 1) (between ++ more ++ [.and]) := by
    rw [← count]
    exact .left joined
  have next : Holds ⟨level.depth, level.disjunction, level.disjuncts,
      some (level.conjoin condition), level.conjuncts + 1, none, 0⟩
      (before ++ (between ++ more ++ [.and]) ++ [] ++ List.replicate 0 .not) :=
    .mk disjunction joins .nothing (by omega)
  rw [idle.1, idle.2]
  simpa using next

theorem holds_or (holds : Holds level tokens) (idle : Idle level)
    (last : Fits level.innerDepth .comparison more condition)
    (within : level.depth + level.disjuncts + 1 ≤ maxDepth) :
    Holds { level with
      disjunction := some (level.close condition), disjuncts := level.disjuncts + 1,
      conjunction := none, conjuncts := 0 } (tokens ++ more ++ [.or]) := by
  obtain ⟨closed, count⟩ := fits_close holds idle last
  have joins : Joins level.depth .disjunction .or disjunctions (some (level.close condition))
      (level.disjuncts + 1) (tokens ++ more ++ [.or]) := by
    rw [← count]
    exact .left closed
  have next : Holds ⟨level.depth, some (level.close condition), level.disjuncts + 1, none, 0, none, 0⟩
      (tokens ++ more ++ [.or] ++ [] ++ [] ++ List.replicate 0 .not) :=
    .mk joins .nothing .nothing within
  rw [idle.1, idle.2]
  simpa using next

theorem encloses_nil (around : Encloses [] depth tokens) : depth = 0 ∧ tokens = [] := by
  cases around
  exact ⟨rfl, rfl⟩

/-- The parenthesis around a level stands in the level next to it. -/
theorem encloses_cons (around : Encloses (enclosing :: outer) depth tokens) :
    depth = enclosing.innerDepth + 1 ∧ ∃ before opened, tokens = before ++ opened ++ [.leftParen] ∧
      Holds enclosing opened ∧ Encloses outer enclosing.depth before := by
  cases around with
  | level holds around => exact ⟨rfl, _, _, rfl, holds, around⟩

theorem represents_take_connective (holds : Holds level tokens)
    (around : Encloses outer level.depth before) (idle : Idle level)
    (left : Fits level.innerDepth .comparison last condition)
    (taken : State.takeConnective outer level condition column token = .ok next) :
    Represents next (before ++ tokens ++ last ++ [token]) := by
  unfold State.takeConnective at taken
  split at taken
  · obtain ⟨_, checked, done⟩ := ok_of_bind taken
    cases done
    simpa using Represents.operand (holds_and holds idle left (check_depth_ok checked)) around
  · obtain ⟨_, checked, done⟩ := ok_of_bind taken
    cases done
    simpa using Represents.operand (holds_or holds idle left (check_depth_ok checked)) around
  · split at taken
    · cases taken
    · rename_i enclosing outer
      split at taken
      · rename_i closer
        subst closer
        obtain ⟨deeper, before', opened, rfl, held, around⟩ := encloses_cons around
        have closed := (fits_close holds idle left).1
        rw [deeper] at closed
        simpa using represents_complete held around (.condition (fits_group closed)) taken
      · cases taken

/-- The left side of a comparison waits in its level for the right side. -/
theorem holds_compare (holds : Holds level tokens) (idle : Idle level)
    (left : Fits level.innerDepth .value more condition) (comparison : Comparison) :
    Holds { level with comparison := some (condition, comparison) }
      (tokens ++ more ++ [.comparison comparison]) := by
  have within := within_of_holds holds
  obtain ⟨before, between, rfl, disjunction, conjunction, deep⟩ := joins_of_idle holds idle
  rw [deep] at left within
  have next : Holds ⟨level.depth, level.disjunction, level.disjuncts, level.conjunction,
      level.conjuncts, some (condition, comparison), 0⟩
      (before ++ between ++ (more ++ [.comparison comparison]) ++ List.replicate 0 .not) :=
    .mk disjunction conjunction (.left left) within
  rw [idle.2]
  simpa using next

theorem represents_take_pattern (holds : Holds level tokens)
    (around : Encloses outer level.depth before) (idle : Idle level)
    (subject : Fits level.innerDepth .value more condition)
    (searches : Searches source wanted test)
    (taken : State.takePattern outer level condition wanted source = .ok next) :
    Represents next (before ++ tokens ++ (more ++ test)) := by
  unfold State.takePattern at taken
  cases compiled : Pattern.ofText? source with
  | none =>
    rw [compiled] at taken
    cases taken
  | some pattern =>
    rw [compiled] at taken
    cases taken
    have found : Fits level.innerDepth .comparison (more ++ test) (.search wanted condition pattern) :=
      ⟨.search subject.spells searches compiled, subject.within⟩
    exact .after holds around idle (.connective found)

/-- A token where a pattern may stand in for the right side of a comparison. -/
theorem represents_take_right (holds : Holds level tokens)
    (around : Encloses outer level.depth before) (idle : Idle level)
    (left : Fits level.innerDepth .value more condition)
    (taken : State.take ⟨outer, level, .operandOrPattern condition equal⟩ lexeme = .ok next) :
    Represents next (before ++ tokens ++
      (more ++ [.comparison (if equal then .equal else .notEqual)]) ++ [lexeme.token]) := by
  simp only [State.take] at taken
  split at taken
  · rename_i source isPattern
    rw [isPattern]
    cases equal with
    | true => simpa using represents_take_pattern holds around idle left .equal taken
    | false => simpa using represents_take_pattern holds around idle left .notEqual taken
  · have holds := holds_compare holds idle left (if equal then .equal else .notEqual)
    simpa using represents_take_operand holds around taken

/-- A token after an operand. -/
theorem represents_take_operator (holds : Holds level tokens)
    (around : Encloses outer level.depth before) (idle : Idle level)
    (stands : Stands level.innerDepth operand last)
    (taken : State.take ⟨outer, level, .operator operand⟩ lexeme = .ok next) :
    Represents next (before ++ tokens ++ last ++ [lexeme.token]) := by
  have within := within_of_holds holds
  simp only [State.take] at taken
  split at taken
  · rename_i isEqual
    obtain ⟨first, read, done⟩ := ok_of_bind taken
    cases done
    have left := fits_of_to_value stands within read
    have awaits : Awaits level.innerDepth (.operandOrPattern first true)
        (last ++ [.comparison .equal]) := .operandOrPattern left
    rw [isEqual]
    simpa using Represents.after holds around idle awaits
  · rename_i isNotEqual
    obtain ⟨first, read, done⟩ := ok_of_bind taken
    cases done
    have left := fits_of_to_value stands within read
    have awaits : Awaits level.innerDepth (.operandOrPattern first false)
        (last ++ [.comparison .notEqual]) := .operandOrPattern left
    rw [isNotEqual]
    simpa using Represents.after holds around idle awaits
  · rename_i comparison _ _ isComparison
    obtain ⟨first, read, done⟩ := ok_of_bind taken
    cases done
    have left := fits_of_to_value stands within read
    rw [isComparison]
    simpa using Represents.operand (holds_compare holds idle left comparison) around
  · rename_i wanted isSearch
    obtain ⟨first, read, done⟩ := ok_of_bind taken
    cases done
    have left := fits_of_to_value stands within read
    have awaits : Awaits level.innerDepth (.pattern first wanted) (last ++ [.search wanted]) :=
      .pattern left
    rw [isSearch]
    simpa using Represents.after holds around idle awaits
  · obtain ⟨first, read, taken⟩ := ok_of_bind taken
    have operand := fits_of_to_condition stands read
    exact represents_take_connective holds around idle ⟨.alone operand.spells, operand.within⟩ taken

/-- One token more keeps what the state stands for. -/
theorem represents_take (represents : Represents state tokens)
    (taken : state.take lexeme = .ok next) : Represents next (tokens ++ [lexeme.token]) := by
  cases represents with
  | operand holds around => exact represents_take_operand holds around taken
  | after holds around idle awaits =>
    cases awaits with
    | operandOrPattern left => exact represents_take_right holds around idle left taken
    | pattern left =>
      simp only [State.take] at taken
      split at taken
      · rename_i isPattern
        rw [isPattern]
        simpa using represents_take_pattern holds around idle left .pattern taken
      · rename_i isText
        rw [isText]
        simpa using represents_take_pattern holds around idle left .text taken
      · cases taken
    | operator stands => exact represents_take_operator holds around idle stands taken
    | connective left =>
      simp only [State.take] at taken
      split at taken
      · cases taken
      · cases taken
      · exact represents_take_connective holds around idle left taken

/-! ## Whole readings -/

/-- Takes lexemes one after another. -/
def run (state : State) (lexemes : List Lexeme) : Except ConditionError State :=
  lexemes.foldlM State.take state

theorem run_cons {state next : State} (taken : state.take lexeme = .ok next)
    (lexemes : List Lexeme) : run state (lexeme :: lexemes) = run next lexemes := by
  simp only [run, List.foldlM_cons, taken]
  rfl

theorem run_singleton (state : State) (lexeme : Lexeme) :
    run state [lexeme] = state.take lexeme := by
  cases taken : state.take lexeme with
  | error error => simp [run, taken, bind, Except.bind]
  | ok next => simp [run, taken, bind, Except.bind, pure, Except.pure]

theorem run_append {state next : State} (ran : run state before = .ok next)
    (after : List Lexeme) : run state (before ++ after) = run next after := by
  unfold run at ran ⊢
  rw [List.foldlM_append, ran]
  rfl

theorem represents_start : Represents State.start [] :=
  .operand (holds_start (Nat.zero_le _)) .top

theorem represents_run (represents : Represents state tokens)
    (ran : run state lexemes = .ok next) :
    Represents next (tokens ++ lexemes.map (·.token)) := by
  induction lexemes generalizing state tokens with
  | nil =>
    cases ran
    simpa using represents
  | cons lexeme lexemes ih =>
    obtain ⟨middle, taken, later⟩ := ok_of_bind ran
    simpa using ih (represents_take represents taken) later

/-- What stands before the next logical operator, or before the end. -/
inductive Ends : Expected → Condition → Prop where
  | operator (read : operand.toCondition = .ok condition) : Ends (.operator operand) condition
  | connective : Ends (.connective condition) condition

theorem finish_ok_iff (state : State) (length : Nat) (condition : Condition) :
    state.finish length = .ok condition ↔
      state.outer = [] ∧ ∃ last, Ends state.expected last ∧ condition = state.level.close last := by
  obtain ⟨outer, level, expected⟩ := state
  constructor
  · intro finished
    cases expected with
    | operator operand =>
      obtain ⟨last, read, closed⟩ := ok_of_bind finished
      cases outer with
      | nil =>
        cases closed
        exact ⟨rfl, last, .operator read, rfl⟩
      | cons enclosing outer => cases closed
    | connective left =>
      cases outer with
      | nil =>
        cases finished
        exact ⟨rfl, left, .connective, rfl⟩
      | cons enclosing outer => cases finished
    | operand => cases finished
    | operandOrPattern left equal => cases finished
    | pattern left wanted => cases finished
  · rintro ⟨rfl, last, ends, rfl⟩
    cases ends with
    | operator read =>
      simp only [State.finish, read]
      rfl
    | connective => rfl

/-- What has been read at the end fits. -/
theorem fits_of_finish (represents : Represents state tokens)
    (finished : state.finish length = .ok condition) : Fits 0 .disjunction tokens condition := by
  obtain ⟨outermost, last, ends, rfl⟩ := (finish_ok_iff state length condition).1 finished
  cases represents with
  | operand holds around => cases ends
  | @after level tokens outer before expected final holds around idle awaits =>
    have left : Fits level.innerDepth .comparison final last := by
      cases ends with
      | operator read =>
        cases awaits with
        | operator stands =>
          have operand := fits_of_to_condition stands read
          exact ⟨.alone operand.spells, operand.within⟩
      | connective =>
        cases awaits with
        | connective left => exact left
    have closed := (fits_close holds idle left).1
    cases outermost
    obtain ⟨zero, rfl⟩ := encloses_nil around
    rw [zero] at closed
    exact closed

end ServerIncludes.ConditionSoundness
