import Mathlib.Data.List.Chain
import ServerIncludes.Proofs.Condition.Descent.Agreement

/-! How deeply the functions that read conditions call one another. Each `(` and `!` that is being
parsed is a call that has not returned, and the depth that is checked where they are taken counts at
least those; between two of them there are as many calls as there are functions. No function is called
again for the same part before a token has been taken. -/
namespace ServerIncludes.DescentBounds

open ConditionDescent ConditionReader ConditionSoundness ConditionViability DescentAgreement

/-! ## What happens on the way -/

/-- The `(` and `!` that are being parsed: the calls for what stands behind them. -/
def constructs : List Part → Nat
  | .unary :: .unary :: around => constructs (.unary :: around) + 1
  | .disjunction :: .primary :: around => constructs (.primary :: around) + 1
  | _ :: around => constructs around
  | [] => 0

/-- What a function calls before it takes any token. -/
inductive Starts : Part → Part → Prop where
  | disjunction : Starts .disjunction .conjunction
  | conjunction : Starts .conjunction .comparison
  | comparison : Starts .comparison .unary
  | unary : Starts .unary .primary

/-- What a function calls behind a token that it has taken. -/
inductive Enters : Token → Part → Part → Prop where
  | or : Enters .or .disjunction .conjunction
  | and : Enters .and .conjunction .comparison
  | value : Enters (.comparison relation) .comparison .unary
  | pattern : Enters (.comparison relation) .comparison .pattern
  | search : Enters (.search wanted) .comparison .pattern
  | not : Enters .not .unary .unary
  | leftParen : Enters .leftParen .primary .disjunction

/-- Events that can follow one another. A function is called at once by the function around it, or
behind the token that leads to it, and that token has been taken last. -/
inductive Precedes : Event → Event → Prop where
  | take : Precedes event (.take token)
  | starts (starts : Starts caller part) :
    Precedes (.call (caller :: around)) (.call (part :: caller :: around))
  | enters (enters : Enters token caller part) :
    Precedes (.take token) (.call (part :: caller :: around))

/-- The tokens that have been taken. -/
def taken (trace : List Event) : List Token :=
  trace.filterMap fun
    | .call _ => none
    | .take token => some token

theorem taken_append (first last : List Event) : taken (first ++ last) = taken first ++ taken last :=
  List.filterMap_append

/-- The tokens that are left of an input. -/
def tokens (input : Input) : List Token := input.lexemes.list.map (·.token)

/-! ## The calls that have not returned -/

/-- The functions by how many of them there can be around one another with no `(` or `!` between. -/
def rank : Part → Nat
  | .disjunction => 1
  | .conjunction => 2
  | .comparison => 3
  | .unary => 4
  | .pattern => 4
  | .primary => 5

/-- A function may be called for what is at a depth, within other calls. -/
structure Allowed (part : Part) (around : List Part) (depth : Nat) : Prop where
  counted : constructs (part :: around) ≤ depth
  shallow : depth ≤ maxDepth
  short : (part :: around).length ≤ 5 * constructs (part :: around) + rank part

theorem allowed_start : Allowed .disjunction [] 0 := ⟨Nat.le_refl _, Nat.zero_le _, Nat.le_refl _⟩

theorem rank_le (part : Part) : rank part ≤ 5 := by
  cases part <;> decide

theorem rank_pos (part : Part) : 0 < rank part := by
  cases part <;> decide

/-- A function that reads a part calls one for a part of that part, -/
theorem Allowed.inner (allowed : Allowed caller around depth)
    (counts : constructs (part :: caller :: around) = constructs (caller :: around))
    (later : rank caller < rank part) (deeper : depth ≤ depth') (shallow : depth' ≤ maxDepth) :
    Allowed part (caller :: around) depth' := by
  obtain ⟨counted, _, short⟩ := allowed
  refine ⟨by omega, shallow, ?_⟩
  rw [List.length_cons, counts]
  omega

/-- or any one behind `(` or `!`. -/
theorem Allowed.nested (allowed : Allowed caller around depth)
    (counts : constructs (part :: caller :: around) = constructs (caller :: around) + 1)
    (shallow : depth + 1 ≤ maxDepth) : Allowed part (caller :: around) (depth + 1) := by
  obtain ⟨counted, _, short⟩ := allowed
  have last := rank_le caller
  have first := rank_pos part
  refine ⟨by omega, shallow, ?_⟩
  rw [List.length_cons, counts]
  omega

/-- The call stack is bounded, whatever is read. -/
def Bounded (stack : List Part) : Prop :=
  constructs stack ≤ maxDepth ∧ stack.length ≤ 5 * (maxDepth + 1)

theorem Allowed.bounded (allowed : Allowed part around depth) : Bounded (part :: around) := by
  obtain ⟨counted, shallow, short⟩ := allowed
  have last := rank_le part
  exact ⟨by omega, by omega⟩

/-! ## Traces -/

/-- What is known of a descent that some tokens lead to, after an event. -/
structure Traced (previous : Option Event) (ahead : List Token) (descent : Descent bound α) :
    Prop where
  orderly : List.IsChain Precedes (previous.toList ++ descent.trace)
  bounded : ∀ stack, .call stack ∈ descent.trace → Bounded stack
  consumed : ∃ rest, taken descent.trace ++ rest = ahead ∧
    ∀ reached, descent.result = .ok reached → tokens reached.after = rest

theorem isChain_option (previous : Option Event) : List.IsChain Precedes (previous.toList ++ []) := by
  cases previous <;> simp

theorem traced_fail (previous : Option Event) (ahead : List Token) (error : ConditionError) :
    Traced previous ahead (Descent.fail error : Descent bound α) :=
  ⟨isChain_option previous, nofun, ahead, rfl, nofun⟩

theorem traced_done (previous : Option Event) (value : α) (after : Input)
    (shorter : after.left < bound) : Traced previous (tokens after) (.done value after shorter) := by
  refine ⟨isChain_option previous, nofun, tokens after, rfl, ?_⟩
  rintro _ ⟨rfl⟩
  rfl

section Rules
variable {previous : Option Event} {ahead : List Token}

theorem traced_take {descent : Descent bound α} (later : Traced (some (.take token)) ahead descent) :
    Traced previous (token :: ahead) (.record (.take token) descent) := by
  obtain ⟨orderly, bounded, rest, consumed, reached⟩ := later
  refine ⟨?_, ?_, rest, congrArg (token :: ·) consumed, reached⟩
  · cases previous with
    | none => exact orderly
    | some event => exact .cons_cons .take orderly
  · intro stack member
    rcases List.mem_cons.1 member with same | member
    · cases same
    · exact bounded stack member

theorem traced_call {descent : Descent bound α}
    (entry : ∀ event ∈ previous, Precedes event (.call (part :: around)))
    (allowed : Allowed part around depth)
    (later : Traced (some (.call (part :: around))) ahead descent) :
    Traced previous ahead (.record (.call (part :: around)) descent) := by
  obtain ⟨orderly, bounded, consumed⟩ := later
  refine ⟨?_, ?_, consumed⟩
  · cases previous with
    | none => exact orderly
    | some event => exact .cons_cons (entry event rfl) orderly
  · intro stack member
    rcases List.mem_cons.1 member with same | member
    · cases same
      exact allowed.bounded
    · exact bounded stack member

theorem traced_trying {step : Except ConditionError β} {next : β → Descent bound α}
    (goes_on : ∀ value, step = .ok value → Traced previous ahead (next value)) :
    Traced previous ahead (.trying step next) := by
  cases done : step with
  | error error => exact traced_fail previous ahead error
  | ok value => exact goes_on value done

theorem traced_andThen {first : Descent smaller β}
    {next : β → (after : Input) → after.left < smaller → Descent bound α}
    (begins : Traced previous ahead first)
    (goes_on : ∀ value after shorter previous,
      Traced previous (tokens after) (next value after shorter)) :
    Traced previous ahead (first.andThen next) := by
  obtain ⟨trace, result⟩ := first
  obtain ⟨orderly, bounded, rest, consumed, reached⟩ := begins
  cases result with
  | error error => exact ⟨orderly, bounded, rest, consumed, nofun⟩
  | ok read =>
    have left := reached read rfl
    have later := goes_on read.value read.after read.shorter
    refine ⟨?_, ?_, ?_⟩
    · simp only [Descent.andThen, ← List.append_assoc]
      refine List.isChain_append.2 ⟨orderly, (later none).orderly, ?_⟩
      intro event isLast next isFirst
      have chained := (later (some event)).orderly
      exact (List.isChain_append.1 chained).2.2 event rfl next isFirst
    · intro stack member
      rcases List.mem_append.1 member with member | member
      · exact bounded stack member
      · exact (later none).bounded stack member
    · obtain ⟨rest', consumed', reached'⟩ := (later none).consumed
      refine ⟨rest', ?_, reached'⟩
      simp only [Descent.andThen, taken_append, List.append_assoc, consumed', left, ← consumed]

/-- What looks at the next token takes it or leaves it. -/
theorem traced_look {input : Input} {next : Option (Seen input) → Descent bound α}
    (ended : Traced previous (tokens input) (next none))
    (found : ∀ seen : Seen input, tokens input = seen.lexeme.token :: tokens seen.after →
      Traced previous (seen.lexeme.token :: tokens seen.after) (next (some seen))) :
    Traced previous (tokens input) (.trying input.look next) := by
  have looks := input.looks
  generalize input.look = looked at looks ⊢
  cases looks with
  | fault lexemes => exact traced_fail previous (tokens input) _
  | ended lexemes => exact ended
  | @seen seen lexemes =>
    have same : tokens input = seen.lexeme.token :: tokens seen.after := by
      simp [tokens, lexemes, Lexemes.push]
    rw [same]
    exact found seen same

end Rules

theorem tokens_kept (seen : Seen input) :
    tokens seen.kept = seen.lexeme.token :: tokens seen.after := rfl

/-! ## Each function -/

variable {length : Nat} {previous : Option Event}

/-- Reading a condition stays within bounds, for all inputs of which there is less left than a bound. -/
def TracedBelow (length bound : Nat) : Prop :=
  ∀ {input : Input}, input.left < bound → ∀ {around depth previous},
    Allowed .disjunction around depth →
    (∀ event ∈ previous, Precedes event (.call (.disjunction :: around))) →
    Traced previous (tokens input) (disjunction length around depth input)

theorem TracedBelow.mono (inside : TracedBelow length bound) (le : smaller ≤ bound) :
    TracedBelow length smaller := by
  intro input within around depth previous allowed entry
  exact inside (Nat.lt_of_lt_of_le within le) allowed entry

theorem le_of_check_depth (shallow : State.checkDepth column depth = .ok value) :
    depth ≤ maxDepth := by
  unfold State.checkDepth at shallow
  split at shallow
  · cases shallow
  · omega

theorem entry_of_starts (starts : Starts caller part) {around : List Part} :
    ∀ event ∈ some (Event.call (caller :: around)),
      Precedes event (.call (part :: caller :: around)) := by
  rintro _ ⟨rfl⟩
  exact .starts starts

theorem entry_of_enters (enters : Enters token caller part) {around : List Part} :
    ∀ event ∈ some (Event.take token), Precedes event (.call (part :: caller :: around)) := by
  rintro _ ⟨rfl⟩
  exact .enters enters

theorem traced_primary {input : Input} (inside : TracedBelow length input.left)
    (allowed : Allowed .primary around depth)
    (entry : ∀ event ∈ previous, Precedes event (.call (.primary :: around))) :
    Traced previous (tokens input) (primary length around depth input) := by
  rw [primary]
  refine traced_call entry allowed (traced_look (traced_fail _ _ _) ?_)
  intro seen _
  refine traced_take ?_
  by_cases isOpener : seen.lexeme.token = .leftParen
  · rw [if_pos isOpener, isOpener]
    refine traced_trying ?_
    intro _ shallow
    have inner : Allowed .disjunction (.primary :: around) (depth + 1) :=
      allowed.nested rfl (le_of_check_depth shallow)
    refine traced_andThen (inside seen.after_left inner (entry_of_enters .leftParen)) ?_
    intro condition after _ previous
    refine traced_look (traced_fail _ _ _) ?_
    intro closer _
    refine traced_take ?_
    by_cases isCloser : closer.lexeme.token = .rightParen
    · rw [if_pos isCloser]
      exact traced_done _ _ _ _
    · rw [if_neg isCloser]
      exact traced_fail _ _ _
  · rw [if_neg isOpener]
    exact traced_trying fun _ _ => traced_done _ _ _ _

theorem traced_unary {input : Input} (inside : TracedBelow length input.left)
    (allowed : Allowed .unary around depth)
    (entry : ∀ event ∈ previous, Precedes event (.call (.unary :: around))) :
    Traced previous (tokens input) (unary length around depth input) := by
  induction input using (measure Input.left).wf.induction generalizing around depth previous with
  | h input ih =>
    rw [unary]
    have within : Allowed .primary (.unary :: around) depth :=
      allowed.inner rfl (by decide) (Nat.le_refl _) allowed.shallow
    refine traced_call entry allowed (traced_look ?ended ?found)
    case ended => exact traced_primary inside within (entry_of_starts .unary)
    case found =>
      intro seen _
      have smaller := seen.after_left
      by_cases isNot : seen.lexeme.token = .not
      · simp only [isNot]
        refine traced_take (traced_trying ?_)
        intro _ shallow
        have inner : Allowed .unary (.unary :: around) (depth + 1) :=
          allowed.nested rfl (le_of_check_depth shallow)
        refine traced_andThen
          (ih seen.after smaller (inside.mono smaller.le) inner (entry_of_enters .not)) ?_
        intro operand after _ previous
        exact traced_trying fun _ _ => traced_done _ _ _ _
      · simp only [if_neg isNot]
        rw [← tokens_kept]
        have read := traced_primary (inside.mono seen.kept_left) within (entry_of_starts .unary)
        exact traced_andThen read fun _ _ _ _ => traced_done _ _ _ _

theorem traced_pattern (allowed : Allowed .pattern around depth)
    (entry : ∀ event ∈ previous, Precedes event (.call (.pattern :: around))) (input : Input) :
    Traced previous (tokens input) (pattern length around input) := by
  refine traced_call entry allowed (traced_look (traced_fail _ _ _) ?_)
  intro seen _
  exact traced_take (traced_trying fun _ _ => traced_done _ _ _ _)

theorem traced_unchained (previous : Option Event) (condition : Condition) {input : Input}
    (within : input.left < bound) :
    Traced previous (tokens input) (unchained condition input within) := by
  refine traced_look (traced_done _ _ _ _) ?_
  intro seen _
  by_cases relates : Relates seen.lexeme.token
  · simp only [if_pos relates]
    exact traced_fail _ _ _
  · simp only [if_neg relates]
    rw [← tokens_kept]
    exact traced_done _ _ _ _

theorem tokens_peeked {input : Input} {next : Option (Seen input)} (looked : input.look = .ok next) :
    tokens (peeked input next) = tokens input := by
  have looks := input.looks
  rw [looked] at looks
  cases looks with
  | ended lexemes => rfl
  | seen lexemes => simp [tokens, peeked, lexemes, lexemes_kept]

theorem traced_comparison {input : Input} (inside : TracedBelow length input.left)
    (allowed : Allowed .comparison around depth)
    (entry : ∀ event ∈ previous, Precedes event (.call (.comparison :: around))) :
    Traced previous (tokens input) (comparison length around depth input) := by
  rw [comparison]
  have operand : Allowed .unary (.comparison :: around) depth :=
    allowed.inner rfl (by decide) (Nat.le_refl _) allowed.shallow
  have searched : Allowed .pattern (.comparison :: around) depth :=
    allowed.inner rfl (by decide) (Nat.le_refl _) allowed.shallow
  refine traced_call entry allowed ?_
  refine traced_andThen (traced_unary inside operand (entry_of_starts .comparison)) ?_
  intro first after shorter previous
  refine traced_look (traced_trying fun _ _ => traced_done _ _ _ _) ?_
  intro seen _
  have smaller := seen.after_left
  dsimp only
  split
  · rename_i wanted isSearch
    rw [isSearch]
    refine traced_take (traced_trying ?_)
    intro left _
    refine traced_andThen (traced_pattern searched (entry_of_enters .search) _) ?_
    exact fun _ _ _ previous => traced_unchained previous _ _
  · rename_i relation isRelation
    rw [isRelation]
    refine traced_take (traced_trying ?_)
    intro left _
    refine traced_trying ?_
    intro next looked
    have smaller' := peeked_left seen.after next
    rw [← tokens_peeked looked]
    split
    · refine traced_andThen (traced_pattern searched (entry_of_enters .pattern) _) ?_
      exact fun _ _ _ previous => traced_unchained previous _ _
    · refine traced_andThen
        (traced_unary (inside.mono (by omega)) operand (entry_of_enters .value)) ?_
      exact fun _ _ _ previous => traced_trying fun _ _ => traced_unchained previous _ _
  · rw [← tokens_kept]
    exact traced_trying fun _ _ => traced_done _ _ _ _

/-- In every round of a chain the operator is taken before the operand is read. -/
theorem traced_chain {operator : Token} {join : Condition → Condition → Condition}
    {operand : Nat → (input : Input) → input.left < bound → Descent input.left Condition}
    (operands : ∀ depth' (input : Input) (within : input.left < bound), depth < depth' →
      depth' ≤ maxDepth →
      Traced (some (.take operator)) (tokens input) (operand depth' input within))
    (left : Condition) {input : Input} (within : input.left < bound) (previous : Option Event) :
    Traced previous (tokens input) (chain operator join operand depth left input within) := by
  induction input using (measure Input.left).wf.induction generalizing depth left previous with
  | h input ih =>
    rw [chain]
    refine traced_look (traced_done _ _ _ _) ?_
    intro seen _
    have smaller := seen.after_left
    by_cases isOperator : seen.lexeme.token = operator
    · simp only [isOperator]
      refine traced_take (traced_trying ?_)
      intro _ shallow
      refine traced_andThen
        (operands _ _ _ (Nat.lt_succ_self depth) (le_of_check_depth shallow)) ?_
      intro right after shorter previous
      refine ih after (smaller.trans' shorter) ?_ _ _ previous
      exact fun depth' input within deeper => operands depth' input within (by omega)
    · simp only [if_neg isOperator]
      rw [← tokens_kept]
      exact traced_done _ _ _ _

theorem traced_conjunction {input : Input} (inside : TracedBelow length input.left)
    (allowed : Allowed .conjunction around depth)
    (entry : ∀ event ∈ previous, Precedes event (.call (.conjunction :: around))) :
    Traced previous (tokens input) (conjunction length around depth input) := by
  rw [conjunction]
  have operand : ∀ depth', depth ≤ depth' → depth' ≤ maxDepth →
      Allowed .comparison (.conjunction :: around) depth' :=
    fun _ deeper => allowed.inner rfl (by decide) deeper
  refine traced_call entry allowed (traced_andThen (traced_comparison inside
    (operand depth (Nat.le_refl _) allowed.shallow) (entry_of_starts .conjunction)) ?_)
  intro first after shorter previous
  refine traced_chain ?_ first shorter previous
  intro depth' input within deeper shallow
  exact traced_comparison (inside.mono within.le) (operand depth' deeper.le shallow)
    (entry_of_enters .and)

theorem traced_disjunction {input : Input} (inside : TracedBelow length input.left)
    (allowed : Allowed .disjunction around depth)
    (entry : ∀ event ∈ previous, Precedes event (.call (.disjunction :: around))) :
    Traced previous (tokens input) (disjunction length around depth input) := by
  rw [disjunction]
  have operand : ∀ depth', depth ≤ depth' → depth' ≤ maxDepth →
      Allowed .conjunction (.disjunction :: around) depth' :=
    fun _ deeper => allowed.inner rfl (by decide) deeper
  refine traced_call entry allowed (traced_andThen (traced_conjunction inside
    (operand depth (Nat.le_refl _) allowed.shallow) (entry_of_starts .disjunction)) ?_)
  intro first after shorter previous
  refine traced_chain ?_ first shorter previous
  intro depth' input within deeper shallow
  exact traced_conjunction (inside.mono within.le) (operand depth' deeper.le shallow)
    (entry_of_enters .or)

theorem traced_below (length bound : Nat) : TracedBelow length bound := by
  induction bound with
  | zero => exact fun within => absurd within (Nat.not_lt_zero _)
  | succ bound ih =>
    intro input within around depth previous allowed entry
    exact traced_disjunction (ih.mono (Nat.le_of_lt_succ within)) allowed entry

theorem traced_descend (text : String) :
    Traced none (tokens (Input.start text)) (descend text) := by
  refine traced_look (traced_fail _ _ _) ?_
  intro seen _
  rw [← tokens_kept]
  refine traced_andThen (traced_disjunction (traced_below _ _) allowed_start nofun) ?_
  intro condition after shorter previous
  refine traced_look (traced_done _ _ _ _) ?_
  intro last _
  exact traced_take (traced_fail _ _ _)

/-! ## States -/

/-- The `(` that are open, each with the `!` before it. -/
def opened : List Level → Nat
  | [] => 0
  | level :: outer => opened outer + level.negations + 1

/-- The `(` and `!` that wait for what stands behind them, between two tokens. -/
def waiting (state : State) : Nat := opened state.outer + state.level.negations

theorem opened_le (encloses : Encloses outer depth before) : opened outer ≤ depth := by
  induction encloses with
  | top => exact Nat.le_refl _
  | level holds around ih =>
    simp only [opened, Level.innerDepth]
    omega

theorem waiting_le (ran : run State.start lexemes = .ok state) : waiting state ≤ maxDepth := by
  have represents := represents_run represents_start ran
  generalize [] ++ lexemes.map (·.token) = before at represents
  cases represents with
  | operand holds around =>
    have outside := opened_le around
    cases holds with
    | mk disjunction conjunction comparison within =>
      simp only [waiting] at outside ⊢
      omega
  | after holds around idle awaits =>
    have outside := opened_le around
    cases holds with
    | mk disjunction conjunction comparison within =>
      simp only [waiting] at outside ⊢
      omega

/-! ## Texts -/

/-- Descending into a text ends, with the condition that is read from it or the error. On the way no
more `(` and `!` are being parsed inside one another than the limit allows, neither as calls that have
not returned, which are bounded with them, nor between two tokens that are taken one by one. A call
that is not the first thing its caller does comes just behind the token that leads to it, so every
operand of a chain but the first, and all that stands behind `(` or `!`, is read after a token has
been taken; and the tokens taken are those of the text, each of them once. -/
theorem descent_bounded (text : String) :
    (descend text).result.map (·.value) = Condition.parse text ∧
    (∀ stack, .call stack ∈ (descend text).trace →
      constructs stack ≤ maxDepth ∧ stack.length ≤ 5 * (maxDepth + 1)) ∧
    (∀ read state, read <+: (Lexemes.scan 0 text.toList).list → run State.start read = .ok state →
      waiting state ≤ maxDepth) ∧
    List.IsChain Precedes (descend text).trace ∧
    taken (descend text).trace <+: (Lexemes.scan 0 text.toList).list.map (·.token) := by
  obtain ⟨orderly, bounded, rest, consumed, _⟩ := traced_descend text
  exact ⟨value_of_descend text, bounded, fun _ _ _ ran => waiting_le ran, orderly, rest, consumed⟩

end ServerIncludes.DescentBounds
