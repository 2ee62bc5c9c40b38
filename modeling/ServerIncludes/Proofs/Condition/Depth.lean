import ServerIncludes.Proofs.Condition.Completeness
import ServerIncludes.Proofs.Condition.Lexing

/-! How high the trees of conditions are. The limit is one on the depth that is counted, which is not
the height: the first operand of a chain is counted as if it stood outside the chain, so it may use
up the whole limit and then lie below all operators of the chain as well. The height is bounded by
the square of the limit and twice the limit, and conditions of that height are read. -/
namespace ServerIncludes.ConditionDepth

open ConditionReader ConditionGrammar ConditionCompleteness ConditionLexing

/-- The greatest number of parentheses, negations and logical operators on a path from the root of a
condition to a leaf. -/
def height : Condition → Nat
  | .literal _ => 0
  | .reference _ => 0
  | .compare _ left right => max (height left) (height right)
  | .search _ subject _ => height subject
  | .not inner => height inner + 1
  | .group inner => height inner + 1
  | .and left right => max (height left) (height right) + 1
  | .or left right => max (height left) (height right) + 1

/-! ## The height for a depth -/

theorem square_succ (depth : Nat) : (depth + 1) * (depth + 1) = depth * depth + 2 * depth + 1 := by
  rw [Nat.add_mul, Nat.mul_add]
  omega

/-- The height that a part can have for the depth counted in it and the chain at its top. -/
def bound (condition : Condition) : Rank → Nat
  | .operand => counted condition * counted condition
  | .value => counted condition * counted condition
  | .comparison => counted condition * counted condition
  | .conjunction => counted condition * counted condition + conjunctions condition
  | .disjunction => counted condition * counted condition + counted condition +
      disjunctions condition

theorem height_le_bound (spells : Spells rank tokens condition) :
    height condition ≤ bound condition rank := by
  induction spells with
  | text parsed => exact Nat.zero_le _
  | reference => exact Nat.zero_le _
  | @not tokens condition inner ih =>
    have square := square_succ (counted condition)
    simp only [height, bound, counted] at ih ⊢
    omega
  | @group tokens condition inner ih =>
    have square := square_succ (counted condition)
    have shorter := disjunctions_le_counted condition
    simp only [height, bound, counted] at ih ⊢
    omega
  | word parsed => exact Nat.zero_le _
  | operand operand ih => exact ih
  | alone operand ih => exact ih
  | @compare before first after second comparison left right leftBound rightBound =>
    have wider := Nat.mul_self_le_mul_self (Nat.le_max_left (counted first) (counted second))
    have wider' := Nat.mul_self_le_mul_self (Nat.le_max_right (counted first) (counted second))
    simp only [height, bound, counted] at leftBound rightBound ⊢
    omega
  | search subject searches compiled ih => exact ih
  | comparison comparison ih => exact Nat.le_trans ih (Nat.le_add_right _ _)
  | @and before first after second left right leftBound rightBound =>
    -- The operands of the chain share the square; every operator adds one.
    have wider := Nat.mul_self_le_mul_self
      (Nat.le_max_left (counted first) (conjunctions first + 1 + counted second))
    have within : counted second ≤ counted (.and first second) := by
      simp only [counted]
      omega
    have wider' := Nat.mul_self_le_mul_self within
    simp only [height, bound, counted, conjunctions] at leftBound rightBound wider' ⊢
    omega
  | @conjunction tokens condition conjunction ih =>
    have shorter := conjunctions_le_counted condition
    simp only [bound] at ih ⊢
    omega
  | @or before first after second left right leftBound rightBound =>
    have wider := Nat.mul_self_le_mul_self
      (Nat.le_max_left (counted first) (disjunctions first + 1 + counted second))
    have within : counted second ≤ counted (.or first second) := by
      simp only [counted]
      omega
    have wider' := Nat.mul_self_le_mul_self within
    have shorter := conjunctions_le_counted second
    simp only [height, bound, counted, disjunctions] at leftBound rightBound wider' ⊢
    omega

theorem height_le_of_spells (spells : Spells .disjunction tokens condition) :
    height condition ≤ counted condition * (counted condition + 2) := by
  have within := height_le_bound spells
  have shorter := disjunctions_le_counted condition
  rw [Nat.mul_add]
  simp only [bound] at within
  omega

/-! ## The highest conditions -/

/-- A chain of operators of one kind, all to the right of a condition. -/
def chain (join : Condition → Condition → Condition) (first : Condition) : Nat → Condition
  | 0 => first
  | count + 1 => join (chain join first count) (.reference "a")

/-- The highest condition that is counted at a depth: around that of the depth before it there are a
parenthesis and as many operators of either kind as the depth allows. -/
def highest : Nat → Condition
  | 0 => .reference "a"
  | depth + 1 => chain .or (chain .and (.group (highest depth)) (depth + 1)) (depth + 1)

def chainTokens (operator : Token) : Nat → List Token
  | 0 => []
  | count + 1 => chainTokens operator count ++ [operator, .reference "a"]

def highestTokens : Nat → List Token
  | 0 => [.reference "a"]
  | depth + 1 => .leftParen :: highestTokens depth ++ [.rightParen] ++
      chainTokens .and (depth + 1) ++ chainTokens .or (depth + 1)

def chainText (operator : Char) : Nat → List Char
  | 0 => []
  | count + 1 => chainText operator count ++ [operator, operator, '$', '{', 'a', '}']

/-- The text of the highest condition. -/
def highestText : Nat → List Char
  | 0 => ['$', '{', 'a', '}']
  | depth + 1 => '(' :: highestText depth ++ [')'] ++
      chainText '&' (depth + 1) ++ chainText '|' (depth + 1)

theorem reads_a (later : Reads text tokens) :
    Reads ('$' :: '{' :: 'a' :: '}' :: text) (.reference "a" :: tokens) := by
  have named : String.ofList ['a'] = "a" := rfl
  rw [← named]
  have nonempty : ['a'] ≠ [] := by simp
  exact reads_reference nonempty (by simp) later

theorem reads_chain (operator : Char) (token : Token)
    (reads : ∀ text tokens, Reads text tokens →
      Reads (operator :: operator :: text) (token :: tokens))
    (count : Nat) (later : Reads text tokens) :
    Reads (chainText operator count ++ text) (chainTokens token count ++ tokens) := by
  induction count generalizing text tokens with
  | zero => exact later
  | succ count ih =>
    rw [chainText, chainTokens, List.append_assoc, List.append_assoc]
    exact ih (reads _ _ (reads_a later))

theorem reads_highest (depth : Nat) (later : Reads text tokens) :
    Reads (highestText depth ++ text) (highestTokens depth ++ tokens) := by
  induction depth generalizing text tokens with
  | zero => exact reads_a later
  | succ depth ih =>
    have chained := reads_chain '&' .and (fun _ _ => reads_and) (depth + 1)
      (reads_chain '|' .or (fun _ _ => reads_or) (depth + 1) later)
    have read := reads_left_paren (ih (reads_right_paren chained))
    simpa [highestText, highestTokens] using read

/-- What the two operators that form chains have in common. -/
structure Joiner (operator : Token) (whole part : Rank)
    (join : Condition → Condition → Condition) (joints : Condition → Nat) : Prop where
  spells_join : ∀ {before first after second}, Spells whole before first →
    Spells part after second → Spells whole (before ++ operator :: after) (join first second)
  joints_join : ∀ first second, joints (join first second) = joints first + 1
  counted_join : ∀ first second,
    counted (join first second) = max (counted first) (joints first + 1 + counted second)
  height_join : ∀ first second,
    height (join first second) = max (height first) (height second) + 1

theorem and_joins : Joiner .and .conjunction .comparison .and conjunctions :=
  ⟨.and, fun _ _ => rfl, fun _ _ => rfl, fun _ _ => rfl⟩

theorem or_joins : Joiner .or .disjunction .conjunction .or disjunctions :=
  ⟨.or, fun _ _ => rfl, fun _ _ => rfl, fun _ _ => rfl⟩

theorem spells_chain (joiner : Joiner operator whole part join joints)
    (operand : Spells part [.reference "a"] (.reference "a"))
    (spells : Spells whole tokens first) (count : Nat) :
    Spells whole (tokens ++ chainTokens operator count) (chain join first count) := by
  induction count with
  | zero => simpa [chainTokens, chain] using spells
  | succ count ih =>
    rw [chainTokens, ← List.append_assoc]
    exact joiner.spells_join ih operand

theorem joints_chain (joiner : Joiner operator whole part join joints) (alone : joints first = 0)
    (count : Nat) : joints (chain join first count) = count := by
  induction count with
  | zero => exact alone
  | succ count ih => rw [chain, joiner.joints_join, ih]

/-- A chain does not make its first operand count as any deeper. -/
theorem counted_chain (joiner : Joiner operator whole part join joints)
    (alone : joints first = 0) (count : Nat) :
    counted (chain join first count) = max (counted first) count := by
  induction count with
  | zero => exact (Nat.max_zero _).symm
  | succ count ih =>
    rw [chain, joiner.counted_join, ih, joints_chain joiner alone]
    simp only [counted]
    omega

/-- Every operator of a chain is above its first operand. -/
theorem height_chain (joiner : Joiner operator whole part join joints) (first : Condition)
    (count : Nat) : height (chain join first count) = height first + count := by
  induction count with
  | zero => rfl
  | succ count ih =>
    rw [chain, joiner.height_join, ih]
    simp only [height]
    omega

theorem spells_highest (depth : Nat) :
    Spells .disjunction (highestTokens depth) (highest depth) := by
  induction depth with
  | zero => exact .conjunction (.comparison (.alone .reference))
  | succ depth ih =>
    have operand : Spells .comparison [.reference "a"] (.reference "a") := .alone .reference
    have conjoined := spells_chain and_joins operand (.comparison (.alone (.group ih))) (depth + 1)
    exact spells_chain or_joins (.comparison operand) (.conjunction conjoined) (depth + 1)

theorem counted_highest (depth : Nat) : counted (highest depth) = depth := by
  induction depth with
  | zero => rfl
  | succ depth ih =>
    have single : conjunctions (.group (highest depth)) = 0 := rfl
    have alone : disjunctions (chain .and (.group (highest depth)) (depth + 1)) = 0 := rfl
    rw [highest, counted_chain or_joins alone, counted_chain and_joins single, counted, ih]
    omega

theorem height_highest (depth : Nat) : height (highest depth) = depth * (depth + 2) := by
  induction depth with
  | zero => rfl
  | succ depth ih =>
    have square := square_succ depth
    rw [highest, height_chain or_joins, height_chain and_joins, height, ih, Nat.mul_add,
      Nat.mul_add, square]
    omega

/-- The highest conditions are read up to the limit, so no height below theirs bounds all
conditions. -/
theorem parse_highest (within : depth ≤ maxDepth) :
    Condition.parse (String.ofList (highestText depth)) = .ok (highest depth) := by
  have read := reads_highest depth reads_nil 0
  rw [List.append_nil, List.append_nil] at read
  have spelled : Spelled (String.ofList (highestText depth)) (highest depth) := by
    refine ⟨?_, ?_⟩
    · rw [String.toList_ofList]
      exact read.1
    · rw [String.toList_ofList, read.2]
      exact spells_highest depth
  rw [parse_ok_iff, counted_highest]
  exact ⟨spelled, within⟩

/-! ## The limit -/

/-- The conditions read from a text are no higher than the limit exactly if each condition that it
spells is either no higher or counted as deeper than that. The others are read as well; only the
square of the limit and twice the limit bounds all of them. -/
theorem parse_height (text : String) :
    ((∀ condition, Condition.parse text = .ok condition → height condition ≤ maxDepth) ↔
      ∀ condition, Spelled text condition →
        height condition ≤ maxDepth ∨ maxDepth < counted condition) ∧
    ∀ condition, Condition.parse text = .ok condition →
      height condition ≤ maxDepth * (maxDepth + 2) := by
  refine ⟨⟨?_, ?_⟩, ?_⟩
  · intro bounded condition spelled
    by_cases within : counted condition ≤ maxDepth
    · exact .inl (bounded condition ((parse_ok_iff text condition).2 ⟨spelled, within⟩))
    · exact .inr (by omega)
  · intro counts condition parsed
    obtain ⟨spelled, within⟩ := (parse_ok_iff text condition).1 parsed
    rcases counts condition spelled with bounded | deeper
    · exact bounded
    · omega
  · intro condition parsed
    obtain ⟨spelled, within⟩ := (parse_ok_iff text condition).1 parsed
    have wider := Nat.mul_le_mul within (Nat.add_le_add_right within 2)
    exact Nat.le_trans (height_le_of_spells spelled.spells) wider

/-- At a depth of 16, as it is counted, a condition can be higher than the limit. -/
theorem parse_higher_than_limit :
    ∃ condition, Condition.parse (String.ofList (highestText 16)) = .ok condition ∧
      maxDepth < height condition := by
  refine ⟨highest 16, parse_highest (by decide), ?_⟩
  rw [height_highest]
  decide

end ServerIncludes.ConditionDepth
