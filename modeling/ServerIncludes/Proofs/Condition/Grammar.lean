import ServerIncludes.Condition.Parser

/-! Conditions as a grammar on tokens. Reading accepts exactly what the grammar spells, as long as
the depth that the reader counts stays within its limit, and builds the condition spelled. The depth
counted is a function of the condition: an operand to the right of a logical operator is as deep as
the operators of its own kind before it, and the first operand of a chain is not deeper than the
chain itself. -/
namespace ServerIncludes.ConditionGrammar

open ConditionReader

/-- The parts of conditions, from those that bind tightest to the whole. -/
inductive Rank where
  | operand
  /-- An operand, or a bare word that is compared. -/
  | value
  | comparison
  | conjunction
  | disjunction
  deriving DecidableEq, Repr

/-- An operator and a pattern, which search a value or see to it that nothing is found. -/
inductive Searches (source : String) : Bool → List Token → Prop where
  | pattern : Searches source expected [.search expected, .pattern source]
  | text : Searches source expected [.search expected, .text source]
  | equal : Searches source true [.comparison .equal, .pattern source]
  | notEqual : Searches source false [.comparison .notEqual, .pattern source]

/-- The conditions that tokens spell. -/
inductive Spells : Rank → List Token → Condition → Prop where
  | text (read : Template.parse content = .ok template) :
    Spells .operand [.text content] (.literal template)
  | reference : Spells .operand [.reference name] (.reference name)
  | not (inner : Spells .operand tokens condition) :
    Spells .operand (.not :: tokens) (.not condition)
  | group (inner : Spells .disjunction tokens condition) :
    Spells .operand (.leftParen :: tokens ++ [.rightParen]) (.group condition)
  | word (read : Template.parse content = .ok template) :
    Spells .value [.word content] (.literal template)
  | operand (operand : Spells .operand tokens condition) : Spells .value tokens condition
  | alone (operand : Spells .operand tokens condition) : Spells .comparison tokens condition
  | compare (left : Spells .value before first) (right : Spells .value after second) :
    Spells .comparison (before ++ .comparison comparison :: after)
      (.compare comparison first second)
  | search (subject : Spells .value tokens condition) (searches : Searches source expected test)
      (compiled : Pattern.ofText? source = some pattern) :
    Spells .comparison (tokens ++ test) (.search expected condition pattern)
  | comparison (comparison : Spells .comparison tokens condition) :
    Spells .conjunction tokens condition
  | and (left : Spells .conjunction before first) (right : Spells .comparison after second) :
    Spells .conjunction (before ++ .and :: after) (.and first second)
  | conjunction (conjunction : Spells .conjunction tokens condition) :
    Spells .disjunction tokens condition
  | or (left : Spells .disjunction before first) (right : Spells .conjunction after second) :
    Spells .disjunction (before ++ .or :: after) (.or first second)

/-- A text all of which can be read as tokens, and these spell a condition. -/
structure Spelled (text : String) (condition : Condition) : Prop where
  faultless : (Lexemes.scan 0 text.toList).fault = none
  spells : Spells .disjunction ((Lexemes.scan 0 text.toList).list.map (·.token)) condition

/-- The number of `&&` in the chain at the top of a condition. -/
def conjunctions : Condition → Nat
  | .and left _ => conjunctions left + 1
  | _ => 0

/-- The number of `||` in the chain at the top of a condition. -/
def disjunctions : Condition → Nat
  | .or left _ => disjunctions left + 1
  | _ => 0

/-- The greatest depth that is counted when a condition is read at depth zero. -/
def counted : Condition → Nat
  | .literal _ => 0
  | .reference _ => 0
  | .compare _ left right => max (counted left) (counted right)
  | .search _ subject _ => counted subject
  | .not inner => counted inner + 1
  | .group inner => counted inner + 1
  | .and left right => max (counted left) (conjunctions left + 1 + counted right)
  | .or left right => max (counted left) (disjunctions left + 1 + counted right)

/-- Tokens that spell a condition, and that can be read at a depth without going too deep. -/
structure Fits (depth : Nat) (rank : Rank) (tokens : List Token) (condition : Condition) :
    Prop where
  spells : Spells rank tokens condition
  within : depth + counted condition ≤ maxDepth

/-! ## The grammar -/

theorem conjunctions_of_comparison (spells : Spells .comparison tokens condition) :
    conjunctions condition = 0 := by
  cases spells with
  | alone operand => cases operand <;> rfl
  | compare left right => rfl
  | search subject searches compiled => rfl

theorem disjunctions_of_conjunction (spells : Spells .conjunction tokens condition) :
    disjunctions condition = 0 := by
  cases spells with
  | comparison comparison =>
    cases comparison with
    | alone operand => cases operand <;> rfl
    | compare left right => rfl
    | search subject searches compiled => rfl
  | and left right => rfl

theorem conjunctions_le_counted (condition : Condition) :
    conjunctions condition ≤ counted condition := by
  cases condition <;> simp only [conjunctions, counted] <;> omega

theorem disjunctions_le_counted (condition : Condition) :
    disjunctions condition ≤ counted condition := by
  cases condition <;> simp only [disjunctions, counted] <;> omega

/-- No value begins with a pattern. -/
theorem first_of_value (spells : Spells .value tokens condition) :
    ∃ first rest, tokens = first :: rest ∧ ∀ source, first ≠ .pattern source := by
  cases spells with
  | word read => exact ⟨_, _, rfl, by simp⟩
  | operand operand => cases operand <;> exact ⟨_, _, rfl, by simp⟩

theorem two_of_searches (searches : Searches source expected test) :
    ∃ operator pattern, test = [operator, pattern] := by
  cases searches <;> exact ⟨_, _, rfl⟩

theorem spells_ne_nil (spells : Spells rank tokens condition) : tokens ≠ [] := by
  induction spells <;> simp_all

theorem fits_not (inner : Fits (depth + 1) .operand tokens condition) :
    Fits depth .operand (.not :: tokens) (.not condition) := by
  refine ⟨.not inner.spells, ?_⟩
  have within := inner.within
  simp only [counted]
  omega

theorem fits_group (inner : Fits (depth + 1) .disjunction tokens condition) :
    Fits depth .operand (.leftParen :: tokens ++ [.rightParen]) (.group condition) := by
  refine ⟨.group inner.spells, ?_⟩
  have within := inner.within
  simp only [counted]
  omega

theorem fits_compare (left : Fits depth .value before first)
    (right : Fits depth .value after second) :
    Fits depth .comparison (before ++ .comparison comparison :: after)
      (.compare comparison first second) := by
  refine ⟨.compare left.spells right.spells, ?_⟩
  have firstWithin := left.within
  have secondWithin := right.within
  simp only [counted]
  omega

theorem fits_and (left : Fits depth .conjunction before first)
    (right : Fits (depth + (conjunctions first + 1)) .comparison after second) :
    Fits depth .conjunction (before ++ .and :: after) (.and first second) := by
  refine ⟨.and left.spells right.spells, ?_⟩
  have firstWithin := left.within
  have secondWithin := right.within
  simp only [counted]
  omega

theorem fits_or (left : Fits depth .disjunction before first)
    (right : Fits (depth + (disjunctions first + 1)) .conjunction after second) :
    Fits depth .disjunction (before ++ .or :: after) (.or first second) := by
  refine ⟨.or left.spells right.spells, ?_⟩
  have firstWithin := left.within
  have secondWithin := right.within
  simp only [counted]
  omega

/-- Negations before an operand, each of them a level deeper. -/
theorem fits_negate (inner : Fits (depth + count) .operand tokens condition) :
    Fits depth .operand (List.replicate count .not ++ tokens) (State.negate condition count) := by
  induction count generalizing depth with
  | zero => exact inner
  | succ count ih =>
    have shifted : depth + (count + 1) = depth + 1 + count := by omega
    rw [shifted] at inner
    exact fits_not (ih inner)

end ServerIncludes.ConditionGrammar
