import ServerIncludes.Evaluator

/-! Rewriting conditions by the laws of logic. Settling a condition binds variables and asks the
fallback source, so a law holds only if it keeps the order in which operands are settled and settles
none that was left out. Negations may be pushed inwards, chains regrouped and parentheses dropped, at
any depth. Two negations cancel where a condition is settled, but not where it is an operand of a
comparison: there they leave the value of a truth in place of a text. -/
namespace ServerIncludes.ConditionRewriting

/-- Where a condition stands: it is settled, or its value is compared or searched. -/
inductive Place where
  | settled
  | operand
  deriving DecidableEq, Repr

/-- The comparison that holds where another one does not. -/
def opposite : Comparison → Comparison
  | .equal => .notEqual
  | .notEqual => .equal
  | .less => .greaterEqual
  | .lessEqual => .greater
  | .greater => .lessEqual
  | .greaterEqual => .less

/-- Conditions that laws of logic turn into each other, where one of them stands at a place. What is
compared or searched is an operand, and what is negated or joined is settled, wherever the whole
stands. -/
inductive Rewrites : Place → Condition → Condition → Prop where
  | refl : Rewrites place first first
  | symm (rewrites : Rewrites place first second) : Rewrites place second first
  | trans (rewrites : Rewrites place first second) (later : Rewrites place second third) :
    Rewrites place first third
  | compare (left : Rewrites .operand first first') (right : Rewrites .operand second second') :
    Rewrites place (.compare comparison first second) (.compare comparison first' second')
  | search (subject : Rewrites .operand first first') :
    Rewrites place (.search expected first pattern) (.search expected first' pattern)
  | not (inner : Rewrites .settled first first') : Rewrites place (.not first) (.not first')
  | and (left : Rewrites .settled first first') (right : Rewrites .settled second second') :
    Rewrites place (.and first second) (.and first' second')
  | or (left : Rewrites .settled first first') (right : Rewrites .settled second second') :
    Rewrites place (.or first second) (.or first' second')
  | group (inner : Rewrites place first first') : Rewrites place (.group first) (.group first')
  | notNot : Rewrites .settled (.not (.not first)) first
  | notAnd : Rewrites place (.not (.and first second)) (.or (.not first) (.not second))
  | notOr : Rewrites place (.not (.or first second)) (.and (.not first) (.not second))
  | notCompare : Rewrites place (.not (.compare comparison first second))
      (.compare (opposite comparison) first second)
  | notSearch : Rewrites place (.not (.search expected first pattern))
      (.search (!expected) first pattern)
  | regroupAnd : Rewrites place (.and (.and first second) third) (.and first (.and second third))
  | regroupOr : Rewrites place (.or (.or first second) third) (.or first (.or second third))
  | ungroup : Rewrites place (.group first) first
  | equalEmpty : Rewrites place (.compare .equal first (.literal (Template.literal ""))) (.not first)

variable {first second : Condition} {place : Place}

/-! ## Questions with the answers yes and no -/

/-- Questions one after another are the same questions, however they are grouped. -/
instance : LawfulMonad Query :=
  .mk' Query
    (fun query => funext fun context => congrArg (Answer.mk _ _) (List.append_nil _))
    (fun _ _ => rfl)
    (fun _ _ _ => funext fun _ => congrArg (Answer.mk _ _) (List.append_assoc ..))

/-- The opposite of an answer. -/
def denied (query : Query Bool) : Query Bool := query >>= fun holds => pure (!holds)

/-- Whether both answers are yes. The second question is not asked after a no. -/
def both (query later : Query Bool) : Query Bool :=
  query >>= fun holds => if holds then later else pure false

/-- Whether one of the answers is yes. The second question is not asked after a yes. -/
def either (query later : Query Bool) : Query Bool :=
  query >>= fun holds => if holds then pure true else later

theorem denied_denied (query : Query Bool) : denied (denied query) = query := by
  simp only [denied, bind_assoc, pure_bind, Bool.not_not, bind_pure]

theorem denied_both (query later : Query Bool) :
    denied (both query later) = either (denied query) (denied later) := by
  simp only [denied, both, either, bind_assoc, pure_bind]
  exact bind_congr fun holds => by cases holds <;> rfl

theorem denied_either (query later : Query Bool) :
    denied (either query later) = both (denied query) (denied later) := by
  simp only [denied, both, either, bind_assoc, pure_bind]
  exact bind_congr fun holds => by cases holds <;> rfl

theorem both_both (query later last : Query Bool) :
    both (both query later) last = both query (both later last) := by
  simp only [both, bind_assoc]
  exact bind_congr fun holds => by cases holds <;> rfl

theorem either_either (query later last : Query Bool) :
    either (either query later) last = either query (either later last) := by
  simp only [either, bind_assoc]
  exact bind_congr fun holds => by cases holds <;> rfl

/-! ## What conditions mean -/

theorem meaning_not (inner : Condition) :
    (Condition.not inner).meaning = .ofTruth (denied inner.meaning.truth) := rfl

theorem meaning_and (left right : Condition) : (Condition.and left right).meaning =
    .ofTruth (both left.meaning.truth right.meaning.truth) := rfl

theorem meaning_or (left right : Condition) : (Condition.or left right).meaning =
    .ofTruth (either left.meaning.truth right.meaning.truth) := rfl

theorem meaning_compare (comparison : Comparison) (left right : Condition) :
    (Condition.compare comparison left right).meaning = .ofTruth
      (left.meaning.value >>= fun a => right.meaning.value >>= fun b =>
        pure (comparison.holds a b)) := rfl

theorem meaning_search (expected : Bool) (subject : Condition) (pattern : Pattern) :
    (Condition.search expected subject pattern).meaning = .ofTruth
      (subject.meaning.value >>= fun text => Condition.find pattern text >>= fun found =>
        pure (found == expected)) := rfl

theorem truth_of_truth (truth : Query Bool) :
    ((Meaning.ofTruth truth).value >>= fun text => pure (!text.isEmpty)) = truth := by
  have value : (Meaning.ofTruth truth).value =
      truth >>= fun holds => if holds then pure "1" else pure "" := rfl
  rw [value, bind_assoc]
  calc
    _ = truth >>= pure := bind_congr fun holds => by cases holds <;> rfl
    _ = truth := bind_pure truth

/-- A condition holds if its value is not empty, whatever the condition is made of. -/
theorem truth_eq_value (condition : Condition) : condition.meaning.truth =
    condition.meaning.value >>= fun text => pure (!text.isEmpty) := by
  induction condition with
  | literal text => rfl
  | reference name => rfl
  | group inner ih => exact ih
  | _ => exact (truth_of_truth _).symm

/-- As an operand, a condition that is negated twice has the value of its truth. -/
theorem value_not_not (condition : Condition) : (Condition.not (.not condition)).meaning.value =
    condition.meaning.value >>= fun text => pure (if text.isEmpty then "" else "1") := by
  have value : (Condition.not (.not condition)).meaning.value =
      denied (denied condition.meaning.truth) >>= fun holds =>
        if holds then pure "1" else pure "" := rfl
  rw [value, denied_denied, truth_eq_value, bind_assoc]
  exact bind_congr fun text => by cases text.isEmpty <;> rfl

example (context : Context) :
    let text : Condition := .literal (Template.literal "x")
    (text.meaning.value context).value = "x" ∧
      ((Condition.not (.not text)).meaning.value context).value = "1" := ⟨rfl, rfl⟩

/-! ## The laws -/

theorem holds_opposite (comparison : Comparison) (left right : String) :
    (opposite comparison).holds left right = !(comparison.holds left right) := by
  cases comparison <;> simp [opposite, Comparison.holds, bne]

theorem meaning_not_compare (comparison : Comparison) (left right : Condition) :
    (Condition.not (.compare comparison left right)).meaning =
      (Condition.compare (opposite comparison) left right).meaning := by
  rw [meaning_not, meaning_compare, meaning_compare]
  simp only [Meaning.ofTruth, denied, bind_assoc, pure_bind, holds_opposite]

theorem meaning_not_search (expected : Bool) (subject : Condition) (pattern : Pattern) :
    (Condition.not (.search expected subject pattern)).meaning =
      (Condition.search (!expected) subject pattern).meaning := by
  have turned : ∀ found : Bool, (!(found == expected)) = (found == !expected) := by
    intro found
    cases found <;> cases expected <;> rfl
  rw [meaning_not, meaning_search, meaning_search]
  simp only [Meaning.ofTruth, denied, bind_assoc, pure_bind, turned]

/-- To be equal to the empty text is not to hold. -/
theorem meaning_equal_empty (condition : Condition) :
    (Condition.compare .equal condition (.literal (Template.literal ""))).meaning =
      (Condition.not condition).meaning := by
  have empty : (Condition.literal (Template.literal "")).meaning.value = pure "" := rfl
  have turned : ∀ text : String, Comparison.equal.holds text "" = !(!text.isEmpty) := by
    intro text
    rw [Bool.not_not, Bool.eq_iff_iff, String.isEmpty_iff]
    exact beq_iff_eq
  rw [meaning_compare, meaning_not, denied, truth_eq_value, empty]
  simp only [bind_assoc, pure_bind, turned]

/-! ## Rewriting anywhere -/

/-- Conditions that mean the same as far as is asked at a place. -/
def Agree : Place → Condition → Condition → Prop
  | .settled, first, second => first.meaning.truth = second.meaning.truth
  | .operand, first, second => first.meaning.value = second.meaning.value

theorem agree_of_meaning (same : first.meaning = second.meaning) : Agree place first second := by
  cases place with
  | settled => exact congrArg Meaning.truth same
  | operand => exact congrArg Meaning.value same

theorem agree_of_rewrites (rewrites : Rewrites place first second) : Agree place first second := by
  induction rewrites with
  | refl => exact agree_of_meaning rfl
  | @symm place first second rewrites ih =>
    cases place with
    | settled => exact ih.symm
    | operand => exact ih.symm
  | @trans place first second third rewrites later ih ih' =>
    cases place with
    | settled => exact ih.trans ih'
    | operand => exact ih.trans ih'
  | compare left right ih ih' =>
    simp only [Agree] at ih ih'
    exact agree_of_meaning (by rw [meaning_compare, meaning_compare, ih, ih'])
  | search subject ih =>
    simp only [Agree] at ih
    exact agree_of_meaning (by rw [meaning_search, meaning_search, ih])
  | not inner ih =>
    simp only [Agree] at ih
    exact agree_of_meaning (by rw [meaning_not, meaning_not, ih])
  | and left right ih ih' =>
    simp only [Agree] at ih ih'
    exact agree_of_meaning (by rw [meaning_and, meaning_and, ih, ih'])
  | or left right ih ih' =>
    simp only [Agree] at ih ih'
    exact agree_of_meaning (by rw [meaning_or, meaning_or, ih, ih'])
  | @group place first second inner ih =>
    cases place with
    | settled => exact ih
    | operand => exact ih
  | notNot => exact denied_denied _
  | notAnd => exact agree_of_meaning (congrArg Meaning.ofTruth (denied_both _ _))
  | notOr => exact agree_of_meaning (congrArg Meaning.ofTruth (denied_either _ _))
  | notCompare => exact agree_of_meaning (meaning_not_compare _ _ _)
  | notSearch => exact agree_of_meaning (meaning_not_search _ _ _)
  | regroupAnd => exact agree_of_meaning (congrArg Meaning.ofTruth (both_both _ _ _))
  | regroupOr => exact agree_of_meaning (congrArg Meaning.ofTruth (either_either _ _ _))
  | ungroup => exact agree_of_meaning rfl
  | equalEmpty => exact agree_of_meaning (meaning_equal_empty _)

/-! ## Evaluators -/

/-- An evaluator that has the answer to a question. -/
def told (evaluator : Evaluator) (answer : Answer Bool) : Bool × Evaluator :=
  (answer.value, { evaluator with
    state := { evaluator.state with context := answer.context }
    log := evaluator.log ++ { Log.empty with lookups := answer.lookups } })

theorem truth_eq_told (evaluator : Evaluator) (condition : Condition) :
    evaluator.truth condition = told evaluator (condition.truth evaluator.context) := rfl

/-- The answer to a second question comes behind that to the first. -/
theorem told_later (evaluator : Evaluator) (query : Query Bool) (later : Bool → Query Bool) :
    told evaluator ((query >>= later) evaluator.context) =
      let asked := told evaluator (query evaluator.context)
      told asked.2 (later asked.1 asked.2.context) := by
  have behind (log : Log) (first second : List Lookup) :
      log ++ { Log.empty with lookups := first ++ second } =
        log ++ { Log.empty with lookups := first } ++ { Log.empty with lookups := second } := by
    simp [Log.append_def, Log.append, Log.empty]
  let first := query evaluator.context
  let last := later first.value first.context
  let after (log : Log) : Evaluator :=
    { evaluator with state := { evaluator.state with context := last.context }, log := log }
  exact congrArg (fun log => (last.value, after log))
    (behind evaluator.log first.lookups last.lookups)

theorem told_pure (evaluator : Evaluator) (holds : Bool) :
    told evaluator ((pure holds : Query Bool) evaluator.context) = (holds, evaluator) := by
  show (_, Evaluator.mk evaluator.names evaluator.state (evaluator.log ++ Log.empty)) = _
  rw [Log.append_empty]
  rfl

theorem truth_and (evaluator : Evaluator) (left right : Condition) :
    evaluator.truth (.and left right) =
      if (evaluator.truth left).1 then (evaluator.truth left).2.truth right
      else evaluator.truth left := by
  have later : evaluator.truth (.and left right) =
      told evaluator (both left.truth right.truth evaluator.context) := rfl
  rw [later, both, told_later, ← truth_eq_told]
  obtain ⟨holds, after⟩ := evaluator.truth left
  cases holds with
  | true => rfl
  | false => exact told_pure after false

theorem truth_or (evaluator : Evaluator) (left right : Condition) :
    evaluator.truth (.or left right) =
      if (evaluator.truth left).1 then evaluator.truth left
      else (evaluator.truth left).2.truth right := by
  have later : evaluator.truth (.or left right) =
      told evaluator (either left.truth right.truth evaluator.context) := rfl
  rw [later, either, told_later, ← truth_eq_told]
  obtain ⟨holds, after⟩ := evaluator.truth left
  cases holds with
  | true => exact told_pure after true
  | false => rfl

/-- Whatever state an evaluator is in, conditions that the laws turn into each other have the same
truth, leave the same variables and ask the fallback source for the same names in the same order.
Where the left operand decides a conjunction or disjunction, the whole does what that operand does,
and nothing else; where it does not, the right operand goes on from the state that it leaves. -/
theorem truth_rewritten (evaluator : Evaluator) :
    (∀ first second, Rewrites .settled first second →
      evaluator.truth first = evaluator.truth second) ∧
    ∀ left right,
      (evaluator.truth (.and left right) =
        if (evaluator.truth left).1 then (evaluator.truth left).2.truth right
        else evaluator.truth left) ∧
      (evaluator.truth (.or left right) =
        if (evaluator.truth left).1 then evaluator.truth left
        else (evaluator.truth left).2.truth right) := by
  refine ⟨fun first second rewrites => ?_, fun left right => ⟨truth_and .., truth_or ..⟩⟩
  have same : first.truth = second.truth := agree_of_rewrites rewrites
  rw [Evaluator.truth, Evaluator.truth, same]

/-- A negation around a search, parentheses and a second negation, pushed inwards: the text that the
search binds and the name that the fallback source is asked for are the same. -/
theorem truth_rewritten_search :
    let evaluator : Evaluator := .ofContext
      { Context.ofSettings .standard with
        bindings := .ofList [("a", "xy")], fallback := some fun _ => none }
    ∃ pattern, Pattern.ofText? "x(y)?" = some pattern ∧
      let written : Condition :=
        .not (.group (.and (.search true (.reference "a") pattern) (.not (.not (.reference "b")))))
      let rewritten : Condition :=
        .or (.search false (.reference "a") pattern) (.not (.reference "b"))
      Rewrites .settled written rewritten ∧ evaluator.truth written = evaluator.truth rewritten ∧
        (evaluator.truth written).1 = true ∧
        (evaluator.truth written).2.log.lookups = [.fallback "b"] ∧
        (evaluator.truth written).2.context.bindings.get? "1" = some "y" := by
  intro evaluator
  obtain ⟨pattern, compiled, seen⟩ := Option.map_eq_some_iff.1
    (show (Pattern.ofText? "x(y)?").map (fun pattern =>
        let rewritten : Condition :=
          .or (.search false (.reference "a") pattern) (.not (.reference "b"))
        let (holds, after) := evaluator.truth rewritten
        (holds, after.log.lookups, after.context.bindings.get? "1")) =
      some (true, [.fallback "b"], some "y") by decide +kernel)
  refine ⟨pattern, compiled, ?_⟩
  intro written rewritten
  have rewrites : Rewrites .settled written rewritten :=
    (Rewrites.not (.trans .ungroup (.and .refl .notNot))).trans
      (.trans .notAnd (.or .notSearch .refl))
  have same := (truth_rewritten evaluator).1 written rewritten rewrites
  rw [same]
  obtain ⟨holds, others⟩ := Prod.mk.inj seen
  obtain ⟨asked, bound⟩ := Prod.mk.inj others
  exact ⟨rewrites, rfl, holds, asked, bound⟩

end ServerIncludes.ConditionRewriting
