import ServerIncludes.Proofs.Condition.Descent

/-! Reading a condition by recursive descent comes to the same as taking its tokens one by one. Each
function is compared with taking the tokens that are left: what it has not returned from yet are the
levels and operators that wait, and where it returns, the tokens behind it are taken in the state that
its part leads to. -/
namespace ServerIncludes.DescentAgreement

open ConditionCompleteness ConditionDescent ConditionReader ConditionSoundness ConditionViability

variable (length : Nat)

/-! ## Taking the tokens that are left -/

/-- What taking the tokens that are left of a text comes to. -/
def settle (state : State) (lexemes : Lexemes) : Except ConditionError Condition := do
  let state ← lexemes.list.foldlM State.take state
  match lexemes.fault with
  | some (column, fault) => .error (.malformed column fault)
  | none => state.finish length

theorem settle_push (state : State) (lexeme : Lexeme) (lexemes : Lexemes) :
    settle length state (lexemes.push lexeme) =
      (state.take lexeme).bind fun next => settle length next lexemes := by
  cases taken : state.take lexeme with
  | error error => simp [settle, Lexemes.push, taken, bind, Except.bind]
  | ok next => simp [settle, Lexemes.push, taken, bind, Except.bind]

theorem settle_nil (state : State) : settle length state ⟨[], none⟩ = state.finish length := rfl

/-- The next token is none of a kind, if there is one. -/
def Stops (kind : Token → Prop) (input : Input) : Prop :=
  ∀ lexeme ∈ input.lexemes.list.head?, ¬ kind lexeme.token

theorem stops_of_ended {input : Input} (ended : input.lexemes = ⟨[], none⟩)
    (kind : Token → Prop) : Stops kind input := by
  simp [Stops, ended]

theorem stops_iff_seen {input : Input} {later : Lexemes}
    (found : input.lexemes = later.push lexeme) {kind : Token → Prop} :
    Stops kind input ↔ ¬ kind lexeme.token := by
  simp [Stops, found, Lexemes.push]

/-! ## Descents that agree with a whole -/

/-- A descent is the beginning of a whole: its error is that of the whole, and its value and the
input behind it are some that the whole goes on from. -/
def Begins (whole : Except ConditionError Condition) (descent : Descent bound α)
    (goes : α → Input → Prop) : Prop :=
  match descent.result with
  | .error error => whole = .error error
  | .ok read => goes read.value read.after

variable {length}

variable {whole : Except ConditionError Condition} {goes : β → Input → Prop}

theorem begins_record {descent : Descent bound β} (event : Event)
    (begins : Begins whole descent goes) : Begins whole (.record event descent) goes := begins

theorem begins_trying {step : Except ConditionError α} {next : α → Descent bound β}
    (fails : ∀ error, step = .error error → whole = .error error)
    (goes_on : ∀ value, step = .ok value → Begins whole (next value) goes) :
    Begins whole (.trying step next) goes := by
  cases done : step with
  | error error => exact fails error done
  | ok value => exact goes_on value done

/-- A step that the whole does as well. -/
theorem begins_bind {step : Except ConditionError α} {next : α → Descent bound β}
    {change : α → Except ConditionError γ} {rest : γ → Except ConditionError Condition}
    (here : whole = (step.bind change).bind rest)
    (goes_on : ∀ value, whole = (change value).bind rest → Begins whole (next value) goes) :
    Begins whole (.trying step next) goes := by
  cases step with
  | error error => exact here
  | ok value => exact goes_on value here

theorem Begins.mono {descent : Descent bound β} {goes' : β → Input → Prop}
    (begins : Begins whole descent goes) (weaker : ∀ value after, goes value after → goes' value after) :
    Begins whole descent goes' := by
  obtain ⟨trace, result⟩ := descent
  cases result with
  | error error => exact begins
  | ok read => exact weaker read.value read.after begins

theorem begins_andThen {first : Descent smaller α}
    {next : α → (after : Input) → after.left < smaller → Descent bound β}
    {middle : α → Input → Prop} (begins : Begins whole first middle)
    (goes_on : ∀ value after shorter, middle value after →
      Begins whole (next value after shorter) goes) :
    Begins whole (first.andThen next) goes := by
  obtain ⟨trace, result⟩ := first
  cases result with
  | error error => exact begins
  | ok read => exact goes_on read.value read.after read.shorter begins

/-- What begins a whole by looking at the next token. -/
theorem begins_look {state : State} {input : Input} {next : Option (Seen input) → Descent bound β}
    (here : whole = settle length state input.lexemes)
    (ended : whole = state.finish length → input.lexemes = ⟨[], none⟩ →
      Begins whole (next none) goes)
    (found : ∀ seen : Seen input, whole = ((state.take seen.lexeme).bind fun next =>
        settle length next seen.after.lexemes) →
      input.lexemes = seen.after.lexemes.push seen.lexeme → Begins whole (next (some seen)) goes) :
    Begins whole (.trying input.look next) goes := by
  have looks := input.looks
  generalize input.look = looked at looks ⊢
  cases looks with
  | fault lexemes =>
    rw [lexemes] at here
    exact here
  | ended lexemes => exact ended (by rw [here, lexemes, settle_nil]) lexemes
  | seen lexemes => exact found _ (by rw [here, lexemes, settle_push]) lexemes

/-- Looking at the next token changes nothing else. -/
theorem begins_peek {state : State} {input : Input} {next : Option (Seen input) → Descent bound β}
    (here : whole = settle length state input.lexemes)
    (goes_on : ∀ seen : Option (Seen input),
      whole = settle length state (peeked input seen).lexemes →
      (peeked input seen).lexemes.list.head?.map (·.token) = seen.map (·.lexeme.token) →
      Begins whole (next seen) goes) :
    Begins whole (.trying input.look next) goes := by
  have looks := input.looks
  generalize input.look = looked at looks ⊢
  cases looks with
  | fault lexemes =>
    rw [lexemes] at here
    exact here
  | ended lexemes => exact goes_on none here (by simp [peeked, lexemes])
  | @seen seen lexemes =>
    rw [lexemes, ← lexemes_kept] at here
    exact goes_on (some seen) here rfl

/-! ## What a token does -/

/-- What a token does that is an operand by itself. -/
theorem take_leaf (notNot : lexeme.token ≠ .not) (notOpener : lexeme.token ≠ .leftParen)
    (outer : List Level) (level : Level) :
    State.take ⟨outer, level, .operand⟩ lexeme =
      (leaf lexeme).bind (State.complete outer level) := by
  obtain ⟨column, source, token⟩ := lexeme
  cases token with
  | text content =>
    cases read : readText (column + 1) content <;>
      simp [State.take, State.takeOperand, leaf, read, bind, Except.bind, Except.map]
  | not => exact absurd rfl notNot
  | leftParen => exact absurd rfl notOpener
  | _ => rfl

/-- One more negation takes a condition, and no bare word. -/
theorem complete_negated (outer : List Level) (level : Level) (operand : Operand) :
    State.complete outer { level with negations := level.negations + 1 } operand =
      operand.toCondition.bind fun inner => State.complete outer level (.condition (.not inner)) := by
  cases operand with
  | word column content =>
    rw [complete_eq]
    rfl
  | condition condition => exact complete_not outer level condition

theorem take_chained (relates : Relates lexeme.token) (outer : List Level) (level : Level)
    (left : Condition) :
    State.take ⟨outer, level, .connective left⟩ lexeme =
      .error (.malformed lexeme.column .chained) := by
  obtain ⟨column, source, token⟩ := lexeme
  cases token with
  | comparison comparison => rfl
  | search wanted => rfl
  | _ => exact relates.elim

/-- Where the right side of a comparison is read. -/
def compared (outer : List Level) (level : Level) (left : Condition) : Comparison → State
  | .equal => ⟨outer, level, .operandOrPattern left true⟩
  | .notEqual => ⟨outer, level, .operandOrPattern left false⟩
  | relation => ⟨outer, { level with comparison := some (left, relation) }, .operand⟩

theorem take_comparison (isRelation : lexeme.token = .comparison relation) (outer : List Level)
    (level : Level) (operand : Operand) :
    State.take ⟨outer, level, .operator operand⟩ lexeme =
      operand.toValue.bind fun left => .ok (compared outer level left relation) := by
  cases relation <;> simp only [State.take, isRelation] <;> rfl

variable (length) in
/-- A pattern behind `=` or `!=` is searched for. -/
theorem settle_compared_of_searching {lexemes : Lexemes}
    (searches : searching? relation (lexemes.list.head?.map (·.token)) = some wanted)
    (outer : List Level) (level : Level) (left : Condition) :
    settle length (compared outer level left relation) lexemes =
      settle length ⟨outer, level, .pattern left wanted⟩ lexemes := by
  obtain ⟨list, fault⟩ := lexemes
  cases list with
  | nil => cases relation <;> cases searches
  | cons lexeme later =>
    obtain ⟨column, source, token⟩ := lexeme
    unfold searching? at searches
    split at searches <;> cases searches
    · rename_i same
      cases same
      rfl
    · rename_i same
      cases same
      rfl

variable (length) in
/-- Anything else is an operand to the right of the operator. -/
theorem settle_compared_of_not_searching {lexemes : Lexemes}
    (searches : searching? relation (lexemes.list.head?.map (·.token)) = none)
    (outer : List Level) (level : Level) (left : Condition) :
    settle length (compared outer level left relation) lexemes =
      settle length ⟨outer, { level with comparison := some (left, relation) }, .operand⟩
        lexemes := by
  obtain ⟨list, fault⟩ := lexemes
  cases list with
  | nil => cases relation <;> rfl
  | cons lexeme later =>
    cases relation with
    | equal =>
      have starts : ∀ source, lexeme.token ≠ .pattern source := by
        rintro source same
        simp [searching?, same] at searches
      simp only [settle, compared, List.foldlM_cons, take_right starts, if_true]
    | notEqual =>
      have starts : ∀ source, lexeme.token ≠ .pattern source := by
        rintro source same
        simp [searching?, same] at searches
      simp only [settle, compared, List.foldlM_cons, take_right starts, Bool.false_eq_true, if_false]
    | _ => rfl

/-- The right side of a comparison completes it, if it can be read as a value. -/
theorem complete_compared (idle : Idle level) (outer : List Level) (first : Condition)
    (relation : Comparison) (operand : Operand) :
    State.complete outer { level with comparison := some (first, relation) } operand =
      operand.toValue.bind fun second =>
        .ok ⟨outer, level, .connective (.compare relation first second)⟩ := by
  cases read : operand.toValue with
  | ok second => exact complete_right idle outer first relation read
  | error error =>
    rw [complete_eq]
    simp [negated, completed, idle.2, read, Except.bind, Except.map]

theorem take_search (isSearch : lexeme.token = .search wanted) (outer : List Level) (level : Level)
    (operand : Operand) :
    State.take ⟨outer, level, .operator operand⟩ lexeme =
      operand.toValue.bind fun left => .ok ⟨outer, level, .pattern left wanted⟩ := by
  simp only [State.take, isSearch]
  rfl

/-- What a token does after a comparison that it does not go on. -/
theorem take_behind (apart : ¬ Relates lexeme.token) (outer : List Level) (level : Level)
    (left : Condition) :
    State.take ⟨outer, level, .connective left⟩ lexeme =
      State.takeConnective outer level left lexeme.column lexeme.token := by
  obtain ⟨column, source, token⟩ := lexeme
  cases token with
  | comparison comparison => exact absurd trivial apart
  | search wanted => exact absurd trivial apart
  | _ => rfl

/-- Tokens that a condition between two parentheses goes on with. -/
def Continues (token : Token) : Prop := Relates token ∨ token = .and ∨ token = .or

/-- What any other token does after a condition: it closes a parenthesis or is a fault. -/
theorem take_end (ends : ¬ Continues lexeme.token) (outer : List Level) (level : Level)
    (left : Condition) :
    State.take ⟨outer, level, .connective left⟩ lexeme =
      match outer with
      | [] => .error (.malformed lexeme.column (.unexpected lexeme.token))
      | around :: outer =>
        if lexeme.token = .rightParen then
          State.complete outer around (.condition (.group (level.close left)))
        else .error (.malformed lexeme.column (.notClosed lexeme.token)) := by
  obtain ⟨column, source, token⟩ := lexeme
  cases token with
  | comparison comparison => exact absurd (.inl trivial) ends
  | search wanted => exact absurd (.inl trivial) ends
  | and => exact absurd (.inr (.inl rfl)) ends
  | or => exact absurd (.inr (.inr rfl)) ends
  | _ => rfl

theorem take_pattern_of (outer : List Level) (level : Level) (left : Condition) (wanted : Bool)
    (lexeme : Lexeme) :
    State.take ⟨outer, level, .pattern left wanted⟩ lexeme = (patternOf lexeme).bind fun pattern =>
      .ok ⟨outer, level, .connective (.search wanted left pattern)⟩ := by
  obtain ⟨column, source, token⟩ := lexeme
  cases token with
  | pattern source =>
    cases found : Pattern.ofText? source <;>
      simp [State.take, State.takePattern, patternOf, patternOf.compile, found, Except.bind]
  | text source =>
    cases found : Pattern.ofText? source <;>
      simp [State.take, State.takePattern, patternOf, patternOf.compile, found, Except.bind]
  | _ => rfl

variable (length) in
/-- Levels that have read the same are told apart by `&&` and `||` only, which look at the depth. -/
theorem settle_connective_congr {lexemes : Lexemes} (closes : level.close last = level'.close last')
    (joins : ∀ lexeme ∈ lexemes.list.head?, lexeme.token = .and ∨ lexeme.token = .or →
      State.takeConnective outer level last lexeme.column lexeme.token =
        State.takeConnective outer level' last' lexeme.column lexeme.token) :
    settle length ⟨outer, level, .connective last⟩ lexemes =
      settle length ⟨outer, level', .connective last'⟩ lexemes := by
  obtain ⟨list, fault⟩ := lexemes
  cases list with
  | nil =>
    cases fault with
    | some fault => rfl
    | none =>
      rw [settle_nil, settle_nil]
      cases outer with
      | nil => exact congrArg Except.ok closes
      | cons around outer => rfl
  | cons lexeme later =>
    have same : State.take ⟨outer, level, .connective last⟩ lexeme =
        State.take ⟨outer, level', .connective last'⟩ lexeme := by
      by_cases relates : Relates lexeme.token
      · rw [take_chained relates, take_chained relates]
      · by_cases joint : lexeme.token = .and ∨ lexeme.token = .or
        · rw [take_behind relates, take_behind relates, joins lexeme rfl joint]
        · have ends : ¬ Continues lexeme.token := by simp [Continues, relates, joint]
          rw [take_end ends, take_end ends, closes]
    simp only [settle, List.foldlM_cons, same]

/-! ## Each function -/

/-- A whole goes on behind a condition as in a level that has just read it, and not with a token of
some kind. -/
structure LeavesOff (length : Nat) (whole : Except ConditionError Condition) (outer : List Level)
    (level : Level) (kind : Token → Prop) (condition : Condition) (after : Input) : Prop where
  rest : whole = settle length ⟨outer, level, .connective condition⟩ after.lexemes
  stops : Stops kind after

/-- Reading a condition begins the whole, for all inputs of which there is less left than a bound. -/
def AgreesBelow (length bound : Nat) : Prop :=
  ∀ {input : Input}, input.left < bound → ∀ {outer depth whole},
    whole = settle length ⟨outer, Level.start depth, .operand⟩ input.lexemes → ∀ around,
    Begins whole (disjunction length around depth input)
      (LeavesOff length whole outer (Level.start depth) Continues)

theorem AgreesBelow.mono (agrees : AgreesBelow length bound) (le : smaller ≤ bound) :
    AgreesBelow length smaller := by
  intro input within outer depth whole here around
  exact agrees (Nat.lt_of_lt_of_le within le) here around

theorem begins_primary {input : Input} (agrees : AgreesBelow length input.left)
    (here : whole = settle length ⟨outer, level, .operand⟩ input.lexemes)
    (notNot : Stops (· = .not) input) (around : List Part) :
    Begins whole (primary length around level.innerDepth input) fun operand after =>
      whole = (State.complete outer level operand).bind fun next =>
        settle length next after.lexemes := by
  rw [primary]
  refine begins_record _ (begins_look here ?ended ?found)
  case ended => exact fun whole _ => whole
  case found =>
    intro seen taken lexemes
    refine begins_record _ ?_
    by_cases isOpener : seen.lexeme.token = .leftParen
    · rw [if_pos isOpener]
      have opened : State.take ⟨outer, level, .operand⟩ seen.lexeme =
          (State.checkDepth seen.lexeme.column (level.innerDepth + 1)).bind fun _ =>
            .ok ⟨level :: outer, Level.start (level.innerDepth + 1), .operand⟩ := by
        simp only [State.take, State.takeOperand, isOpener]
        rfl
      rw [opened] at taken
      refine begins_bind taken ?_
      intro _ opens
      refine begins_andThen (agrees seen.after_left opens _) ?_
      rintro inner after shorter ⟨goes_on, stops⟩
      refine begins_look goes_on (fun whole _ => whole) ?_
      intro closer taken lexemes
      refine begins_record _ ?_
      rw [take_end ((stops_iff_seen lexemes).1 stops)] at taken
      by_cases isCloser : closer.lexeme.token = .rightParen
      · rw [if_pos isCloser]
        simp only [if_pos isCloser] at taken
        exact taken
      · rw [if_neg isCloser]
        simp only [if_neg isCloser] at taken
        exact taken
    · rw [if_neg isOpener]
      rw [take_leaf ((stops_iff_seen lexemes).1 notNot) isOpener] at taken
      exact begins_bind taken fun _ goes_on => goes_on

theorem begins_unary {input : Input} (agrees : AgreesBelow length input.left)
    (here : whole = settle length ⟨outer, level, .operand⟩ input.lexemes) (around : List Part) :
    Begins whole (unary length around level.innerDepth input) fun operand after =>
      whole = (State.complete outer level operand).bind fun next =>
        settle length next after.lexemes := by
  -- Each `!` that is taken leaves less of the input and is one more negation of the level.
  induction input using (measure Input.left).wf.induction generalizing level around with
  | h input ih =>
    rw [unary]
    refine begins_record _ (begins_look here ?ended ?found)
    case ended =>
      intro _ lexemes
      exact begins_primary agrees here (stops_of_ended lexemes _) _
    case found =>
      intro seen taken lexemes
      by_cases isNot : seen.lexeme.token = .not
      · simp only [if_pos isNot]
        have negated : State.take ⟨outer, level, .operand⟩ seen.lexeme =
            (State.checkDepth seen.lexeme.column (level.innerDepth + 1)).bind fun _ =>
              .ok ⟨outer, { level with negations := level.negations + 1 }, .operand⟩ := by
          simp only [State.take, State.takeOperand, isNot]
          rfl
        rw [negated] at taken
        refine begins_record _ (begins_bind taken ?_)
        intro _ opens
        have smaller := seen.after_left
        refine begins_andThen (ih seen.after smaller (agrees.mono smaller.le) opens _) ?_
        intro operand after _ goes_on
        rw [complete_negated] at goes_on
        exact begins_bind goes_on fun _ goes_on => goes_on
      · simp only [if_neg isNot]
        rw [lexemes, ← lexemes_kept] at here
        have notNot : Stops (· = .not) seen.kept := (stops_iff_seen (lexemes_kept seen)).2 isNot
        exact begins_andThen (begins_primary (agrees.mono seen.kept_left) here notNot _)
          fun _ _ _ goes_on => goes_on

theorem begins_pattern {input : Input}
    (here : whole = settle length ⟨outer, level, .pattern left wanted⟩ input.lexemes)
    (around : List Part) :
    Begins whole (pattern length around input) fun pattern after =>
      whole = settle length ⟨outer, level, .connective (.search wanted left pattern)⟩
        after.lexemes := by
  refine begins_record _ (begins_look here (fun whole _ => whole) ?_)
  intro seen taken _
  rw [take_pattern_of] at taken
  exact begins_record _ (begins_bind taken fun _ goes_on => goes_on)

theorem begins_unchained {input : Input}
    (here : whole = settle length ⟨outer, level, .connective condition⟩ input.lexemes)
    (within : input.left < bound) :
    Begins whole (unchained condition input within)
      (LeavesOff length whole outer level Relates) := by
  refine begins_look here ?ended ?found
  case ended => exact fun _ lexemes => ⟨here, stops_of_ended lexemes _⟩
  case found =>
    intro seen taken lexemes
    by_cases relates : Relates seen.lexeme.token
    · simp only [if_pos relates]
      rw [take_chained relates] at taken
      exact taken
    · simp only [if_neg relates]
      rw [lexemes, ← lexemes_kept] at here
      exact ⟨here, (stops_iff_seen (lexemes_kept seen)).2 relates⟩

theorem begins_comparison {input : Input} (agrees : AgreesBelow length input.left) (idle : Idle level)
    (here : whole = settle length ⟨outer, level, .operand⟩ input.lexemes) (around : List Part) :
    Begins whole (comparison length around level.innerDepth input)
      (LeavesOff length whole outer level Relates) := by
  rw [comparison]
  refine begins_record _ (begins_andThen (begins_unary agrees here _) ?_)
  intro operand after shorter goes_on
  rw [complete_of_idle idle] at goes_on
  refine begins_look goes_on ?ended ?found
  case ended =>
    intro ended lexemes
    refine begins_trying ?_ ?_
    · intro error isWord
      rw [ended]
      simp [State.finish, isWord, bind, Except.bind]
    · intro condition read
      refine ⟨?_, stops_of_ended lexemes _⟩
      rw [ended, lexemes, settle_nil]
      simp [State.finish, read, bind, Except.bind, pure, Except.pure]
  case found =>
    intro seen taken lexemes
    have smaller := seen.after_left
    dsimp only
    split
    · rename_i wanted isSearch
      rw [take_search isSearch] at taken
      refine begins_record _ (begins_bind taken ?_)
      intro left goes_on
      refine begins_andThen (begins_pattern goes_on _) ?_
      intro pattern last shorter goes_on
      exact begins_unchained goes_on _
    · rename_i relation isRelation
      rw [take_comparison isRelation] at taken
      refine begins_record _ (begins_bind taken ?_)
      intro left goes_on
      refine begins_peek goes_on ?_
      intro next here shown
      have smaller' := peeked_left seen.after next
      rw [← shown]
      split
      · rename_i wanted searches
        rw [settle_compared_of_searching length searches] at here
        refine begins_andThen (begins_pattern here _) ?_
        intro pattern last shorter goes_on
        exact begins_unchained goes_on _
      · rename_i compares
        rw [settle_compared_of_not_searching length compares] at here
        refine begins_andThen (begins_unary (agrees.mono (by omega)) here _) ?_
        intro right last shorter goes_on
        rw [complete_compared idle] at goes_on
        exact begins_bind goes_on fun _ goes_on => begins_unchained goes_on _
    · rename_i notSearch notComparison
      have apart : ¬ Relates seen.lexeme.token := by
        intro relates
        cases isToken : seen.lexeme.token with
        | comparison relation => exact notComparison relation isToken
        | search wanted => exact notSearch wanted isToken
        | _ => simp [isToken, Relates] at relates
      rw [take_apart apart] at taken
      refine begins_bind taken ?_
      intro condition goes_on
      refine ⟨?_, (stops_iff_seen (lexemes_kept seen)).2 apart⟩
      rw [goes_on, lexemes_kept, settle_push, take_behind apart]

section Chains
variable {operator : Token} {join : Condition → Condition → Condition} {kind : Token → Prop}
  {operand : Nat → (input : Input) → input.left < bound → Descent input.left Condition}
  {between behind : Nat → Condition → State}

/-- A chain goes on as its operands do, from one operator to the next. -/
theorem begins_chain
    (takes : ∀ count left (lexeme : Lexeme), lexeme.token = operator →
      (behind count left).take lexeme =
        (State.checkDepth lexeme.column (depth + count + 1)).bind fun _ => .ok (between count left))
    (operands : ∀ count left (input : Input) (within : input.left < bound),
      whole = settle length (between count left) input.lexemes →
      Begins whole (operand (depth + count + 1) input within) fun right after =>
        whole = settle length (behind (count + 1) (join left right)) after.lexemes ∧
          Stops kind after)
    {input : Input} (here : whole = settle length (behind count left) input.lexemes)
    (stops : Stops kind input) (within : input.left < bound) :
    Begins whole (chain operator join operand (depth + count) left input within)
      fun condition after => ∃ count, whole = settle length (behind count condition) after.lexemes ∧
        Stops (fun token => kind token ∨ token = operator) after := by
  induction input using (measure Input.left).wf.induction generalizing count left with
  | h input ih =>
    rw [chain]
    refine begins_look here ?ended ?found
    case ended => exact fun _ lexemes => ⟨count, here, stops_of_ended lexemes _⟩
    case found =>
      intro seen taken lexemes
      have smaller := seen.after_left
      by_cases isOperator : seen.lexeme.token = operator
      · simp only [if_pos isOperator]
        rw [takes count left seen.lexeme isOperator] at taken
        refine begins_record _ (begins_bind taken ?_)
        intro _ opens
        refine begins_andThen (operands count left seen.after (by omega) opens) ?_
        rintro right after shorter ⟨goes_on, stops⟩
        have smaller' : after.left < input.left := by omega
        exact ih after smaller' goes_on stops (by omega)
      · simp only [if_neg isOperator]
        rw [lexemes, ← lexemes_kept] at here
        have apart := (stops_iff_seen lexemes).1 stops
        exact ⟨count, here, (stops_iff_seen (lexemes_kept seen)).2 (by simp [apart, isOperator])⟩

end Chains

/-- A level that waits for an operand, with what is to the left of its last operators. -/
def ready (depth : Nat) (above : Option Condition) (disjuncts : Nat) (beside : Option Condition)
    (conjuncts : Nat) : Level :=
  ⟨depth, above, disjuncts, beside, conjuncts, none, 0⟩

theorem begins_conjunction {input : Input} (agrees : AgreesBelow length input.left)
    (here : whole = settle length ⟨outer, ready depth above disjuncts none 0, .operand⟩
      input.lexemes) (around : List Part) :
    Begins whole (conjunction length around (depth + disjuncts) input)
      (LeavesOff length whole outer (ready depth above disjuncts none 0)
        fun token => Relates token ∨ token = .and) := by
  rw [conjunction]
  have idle : ∀ beside conjuncts, Idle (ready depth above disjuncts beside conjuncts) :=
    fun _ _ => ⟨rfl, rfl⟩
  refine begins_record _ (begins_andThen (begins_comparison agrees (idle none 0) here _) ?_)
  rintro first after shorter ⟨goes_on, stops⟩
  -- The states behind an operator and behind an operand. What has been joined may as well be the
  -- last operand of a level that has joined nothing.
  let between count left : State :=
    ⟨outer, ready depth above disjuncts (some left) (count + 1), .operand⟩
  let behind count left : State :=
    ⟨outer, ready depth above disjuncts none count, .connective left⟩
  have takes : ∀ count left (lexeme : Lexeme), lexeme.token = .and →
      (behind count left).take lexeme = (State.checkDepth lexeme.column
        (depth + disjuncts + count + 1)).bind fun _ => .ok (between count left) := by
    intro count left lexeme isAnd
    simp only [behind, State.take, isAnd]
    rfl
  refine (begins_chain takes ?_ goes_on stops shorter).mono ?_
  · intro count left input within here
    refine (begins_comparison (agrees.mono within.le) (idle (some left) (count + 1)) here _).mono ?_
    rintro right after ⟨goes_on, stops⟩
    refine ⟨goes_on.trans (settle_connective_congr length rfl ?_), stops⟩
    rintro lexeme - (isAnd | isOr)
    · rw [isAnd]
      rfl
    · rw [isOr]
      rfl
  · rintro condition after ⟨count, goes_on, stops⟩
    refine ⟨goes_on.trans (settle_connective_congr length rfl ?_), stops⟩
    rintro lexeme found (isAnd | isOr)
    · exact absurd (.inr isAnd) (stops lexeme found)
    · rw [isOr]
      rfl

theorem begins_disjunction {input : Input} (agrees : AgreesBelow length input.left)
    (here : whole = settle length ⟨outer, Level.start depth, .operand⟩ input.lexemes)
    (around : List Part) :
    Begins whole (disjunction length around depth input)
      (LeavesOff length whole outer (Level.start depth) Continues) := by
  rw [disjunction]
  refine begins_record _ (begins_andThen (begins_conjunction agrees here _) ?_)
  rintro first after shorter ⟨goes_on, stops⟩
  let between count left : State :=
    ⟨outer, ready depth (some left) (count + 1) none 0, .operand⟩
  let behind count left : State := ⟨outer, ready depth none count none 0, .connective left⟩
  have takes : ∀ count left (lexeme : Lexeme), lexeme.token = .or →
      (behind count left).take lexeme = (State.checkDepth lexeme.column
        (depth + count + 1)).bind fun _ => .ok (between count left) := by
    intro count left lexeme isOr
    simp only [behind, State.take, isOr]
    rfl
  refine (begins_chain takes ?_ goes_on stops shorter).mono ?_
  · intro count left input within here
    refine (begins_conjunction (agrees.mono within.le) here _).mono ?_
    rintro right after ⟨goes_on, stops⟩
    refine ⟨goes_on.trans (settle_connective_congr length rfl ?_), stops⟩
    rintro lexeme found (isAnd | isOr)
    · exact absurd (.inr isAnd) (stops lexeme found)
    · rw [isOr]
      rfl
  · rintro condition after ⟨count, goes_on, stops⟩
    have apart : Stops Continues after := by
      intro lexeme found
      simpa [Continues, or_assoc] using stops lexeme found
    refine ⟨goes_on.trans (settle_connective_congr length rfl ?_), apart⟩
    intro lexeme found joint
    exact absurd (.inr joint) (apart lexeme found)

/-- What stands in parentheses is shorter than the input that it is read from, which ties the
functions together. -/
theorem agrees_below (length bound : Nat) : AgreesBelow length bound := by
  induction bound with
  | zero => exact fun within => absurd within (Nat.not_lt_zero _)
  | succ bound ih =>
    intro input within outer depth whole here around
    exact begins_disjunction (ih.mono (Nat.le_of_lt_succ within)) here around

/-! ## Texts -/

theorem lexemes_start (text : String) : (Input.start text).lexemes = Lexemes.scan 0 text.toList := rfl

theorem parse_of_empty (empty : (Input.start text).lexemes = ⟨[], none⟩) :
    Condition.parse text = .error (.malformed 0 .noTokens) := by
  rw [Condition.parse, ← lexemes_start, empty]
  rfl

theorem parse_of_fault (faulty : (Input.start text).lexemes = ⟨[], some (column, fault)⟩) :
    Condition.parse text = .error (.malformed column fault) := by
  rw [Condition.parse, ← lexemes_start, faulty]
  rfl

theorem parse_of_push {later : Lexemes} (found : (Input.start text).lexemes = later.push lexeme) :
    Condition.parse text = settle text.utf8ByteSize State.start (Input.start text).lexemes := by
  rw [Condition.parse, ← lexemes_start, found]
  simp only [readLexemes, Lexemes.push, List.isEmpty_cons, Bool.false_eq_true, if_false]
  rfl

theorem begins_descend (text : String) :
    Begins (Condition.parse text) (descend text)
      fun condition _ => Condition.parse text = .ok condition := by
  have looks := (Input.start text).looks
  unfold descend
  generalize (Input.start text).look = looked at looks ⊢
  cases looks with
  | fault lexemes => exact parse_of_fault lexemes
  | ended lexemes => exact parse_of_empty lexemes
  | seen lexemes =>
    have whole := parse_of_push lexemes
    rw [lexemes, ← lexemes_kept] at whole
    simp only [Descent.trying]
    refine begins_andThen (begins_disjunction (agrees_below _ _) whole []) ?_
    rintro condition after shorter ⟨goes_on, stops⟩
    refine begins_look goes_on (fun ended _ => ended) ?_
    intro last taken lexemes
    rw [take_end ((stops_iff_seen lexemes).1 stops)] at taken
    exact taken

/-- Reading by descent is the same as taking the tokens one by one. -/
theorem value_of_descend (text : String) :
    (descend text).result.map (·.value) = Condition.parse text := by
  have begins := begins_descend text
  unfold Begins at begins
  split at begins
  · rename_i error failed
    rw [failed, begins]
    rfl
  · rename_i read done
    rw [done, begins]
    rfl

end ServerIncludes.DescentAgreement
