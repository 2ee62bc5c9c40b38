import ServerIncludes.Proofs.Condition.Completeness

/-! Conditions mean what was written. Read from left to right, a condition is the tokens of its text,
all of them and in their order, but for the tokens that say the same; and its shape is that of the
precedence of the operators. The other way round, tokens that a condition of that shape is made of
are read as this condition. -/
namespace ServerIncludes.ConditionYield

open ConditionReader ConditionGrammar ConditionCompleteness

/-- What tokens stand for in a condition. -/
inductive Sign where
  /-- A text; `compared` tells whether it is itself a side of a comparison or is searched. -/
  | text (content : Template) (compared : Bool)
  | reference (name : String)
  | comparison (comparison : Comparison)
  /-- The operator of a search and its pattern. -/
  | search (expected : Bool) (pattern : Pattern)
  | not
  | and
  | or
  | leftParen
  | rightParen

/-- The signs of a condition from left to right, of one that is compared or of one that is not. -/
def yield (compared : Bool) : Condition → List Sign
  | .literal content => [.text content compared]
  | .reference name => [.reference name]
  | .compare comparison left right => yield true left ++ .comparison comparison :: yield true right
  | .search expected subject pattern => yield true subject ++ [.search expected pattern]
  | .not inner => .not :: yield false inner
  | .and left right => yield false left ++ .and :: yield false right
  | .or left right => yield false left ++ .or :: yield false right
  | .group inner => .leftParen :: (yield false inner ++ [.rightParen])

/-- The sign that a token is. A quoted text and a bare word are the same text, but the bare word only
where it is compared. -/
inductive StandsFor : Token → Sign → Prop where
  | text (read : Template.parse content = .ok template) :
    StandsFor (.text content) (.text template compared)
  | word (read : Template.parse content = .ok template) :
    StandsFor (.word content) (.text template true)
  | reference : StandsFor (.reference name) (.reference name)
  | comparison : StandsFor (.comparison comparison) (.comparison comparison)
  | not : StandsFor .not .not
  | and : StandsFor .and .and
  | or : StandsFor .or .or
  | leftParen : StandsFor .leftParen .leftParen
  | rightParen : StandsFor .rightParen .rightParen

/-- The signs that tokens are, one after another. Only a search is two tokens: `=~` or `!~` and a
pattern, quoted or between slashes, or `=` or `!=` and a pattern between slashes. -/
inductive StandFor : List Token → List Sign → Prop where
  | nil : StandFor [] []
  | cons (stands : StandsFor token sign) (later : StandFor tokens signs) :
    StandFor (token :: tokens) (sign :: signs)
  | search (searches : Searches source expected test)
      (compiled : Pattern.ofText? source = some pattern) (later : StandFor tokens signs) :
    StandFor (test ++ tokens) (.search expected pattern :: signs)

/-- Whether a condition can be negated, compared or searched as it stands. -/
def isOperand : Condition → Bool
  | .literal _ => true
  | .reference _ => true
  | .not _ => true
  | .group _ => true
  | _ => false

def isAnd : Condition → Bool
  | .and _ _ => true
  | _ => false

def isOr : Condition → Bool
  | .or _ _ => true
  | _ => false

/-- Conditions whose parts bind as tightly as the operators around them demand: without parentheses
only operands are negated, compared or searched, no disjunction is a side of `&&`, and no chain is
the right side of its own operator. -/
def Shaped : Condition → Prop
  | .literal _ => True
  | .reference _ => True
  | .compare _ left right => (isOperand left ∧ isOperand right) ∧ Shaped left ∧ Shaped right
  | .search _ subject _ => isOperand subject ∧ Shaped subject
  | .not inner => isOperand inner ∧ Shaped inner
  | .and left right => (¬ isOr left ∧ ¬ isAnd right ∧ ¬ isOr right) ∧ Shaped left ∧ Shaped right
  | .or left right => ¬ isOr right ∧ Shaped left ∧ Shaped right
  | .group inner => Shaped inner

/-! ## Signs of tokens -/

theorem stand_for_append (first : StandFor before signs) (second : StandFor after more) :
    StandFor (before ++ after) (signs ++ more) := by
  induction first with
  | nil => exact second
  | cons stands later ih => exact .cons stands ih
  | search searches compiled later ih =>
    rw [List.append_assoc]
    exact .search searches compiled ih

/-- Tokens split where their signs do. -/
theorem stand_for_split (stand : StandFor tokens (signs ++ more)) :
    ∃ before after, tokens = before ++ after ∧ StandFor before signs ∧ StandFor after more := by
  induction signs generalizing tokens with
  | nil => exact ⟨[], tokens, rfl, .nil, stand⟩
  | cons sign signs ih =>
    cases stand with
    | cons stands later =>
      obtain ⟨before, after, rfl, first, second⟩ := ih later
      exact ⟨_ :: before, after, rfl, .cons stands first, second⟩
    | @search _ _ test _ _ _ searches compiled later =>
      obtain ⟨before, after, rfl, first, second⟩ := ih later
      exact ⟨test ++ before, after, (List.append_assoc ..).symm,
        .search searches compiled first, second⟩

theorem stand_for_token (stands : StandsFor token sign) : StandFor [token] [sign] :=
  .cons stands .nil

/-- What is read as a text by itself may be compared as well. -/
theorem stand_for_compared (stand : StandFor tokens (yield false condition)) :
    StandFor tokens (yield true condition) := by
  cases condition with
  | literal content =>
    cases stand with
    | cons stands later =>
      cases stands with
      | text parsed => exact .cons (.text parsed) later
  | _ => exact stand

/-! ## The grammar by signs -/

/-- The conditions that may stand as a part of a rank. -/
def Ranked (condition : Condition) : Rank → Prop
  | .operand => isOperand condition
  | .value => isOperand condition
  | .comparison => ¬ isAnd condition ∧ ¬ isOr condition
  | .conjunction => ¬ isOr condition
  | .disjunction => True

/-- Whether the parts of a rank are compared. -/
def isCompared : Rank → Bool
  | .value => true
  | _ => false

theorem not_chain_of_operand (operand : isOperand condition) :
    ¬ isAnd condition ∧ ¬ isOr condition := by
  cases condition with
  | and left right => cases operand
  | or left right => cases operand
  | _ => exact ⟨nofun, nofun⟩

theorem ranked_of_spells (spells : Spells rank tokens condition) : Ranked condition rank := by
  induction spells with
  | operand operand ih => exact ih
  | alone operand ih => exact not_chain_of_operand ih
  | compare left right => exact ⟨nofun, nofun⟩
  | search subject searches compiled => exact ⟨nofun, nofun⟩
  | comparison comparison ih => exact ih.2
  | and left right => exact nofun
  | conjunction conjunction => trivial
  | or left right => trivial
  | _ => rfl

theorem shaped_of_spells (spells : Spells rank tokens condition) : Shaped condition := by
  induction spells with
  | text parsed => trivial
  | reference => trivial
  | word parsed => trivial
  | not inner ih => exact ⟨ranked_of_spells inner, ih⟩
  | compare left right first second =>
    exact ⟨⟨ranked_of_spells left, ranked_of_spells right⟩, first, second⟩
  | search subject searches compiled ih => exact ⟨ranked_of_spells subject, ih⟩
  | and left right first second =>
    exact ⟨⟨ranked_of_spells left, ranked_of_spells right⟩, first, second⟩
  | or left right first second => exact ⟨ranked_of_spells right, first, second⟩
  | _ => assumption

theorem stand_for_of_spells (spells : Spells rank tokens condition) :
    StandFor tokens (yield (isCompared rank) condition) := by
  induction spells with
  | text parsed => exact stand_for_token (.text parsed)
  | reference => exact stand_for_token .reference
  | not inner ih => exact .cons .not ih
  | group inner ih => exact .cons .leftParen (stand_for_append ih (stand_for_token .rightParen))
  | word parsed => exact stand_for_token (.word parsed)
  | operand operand ih => exact stand_for_compared ih
  | compare left right first second => exact stand_for_append first (.cons .comparison second)
  | @search tokens condition source expected test pattern subject searches compiled ih =>
    have searched := StandFor.search searches compiled .nil
    rw [List.append_nil] at searched
    exact stand_for_append ih searched
  | and left right first second => exact stand_for_append first (.cons .and second)
  | or left right first second => exact stand_for_append first (.cons .or second)
  | alone operand ih => exact ih
  | comparison comparison ih => exact ih
  | conjunction conjunction ih => exact ih

/-- An operand is a part of any rank. -/
theorem spells_of_operand (operand : Spells .operand tokens condition) (rank : Rank) :
    Spells rank tokens condition := by
  cases rank with
  | operand => exact operand
  | value => exact .operand operand
  | comparison => exact .alone operand
  | conjunction => exact .comparison (.alone operand)
  | disjunction => exact .conjunction (.comparison (.alone operand))

/-- A comparison is a part of any rank that is not one of operands. -/
theorem spells_of_comparison (comparison : Spells .comparison tokens condition)
    (larger : isOperand condition = false) (ranked : Ranked condition rank) :
    Spells rank tokens condition := by
  cases rank with
  | operand => simp [Ranked, larger] at ranked
  | value => simp [Ranked, larger] at ranked
  | comparison => exact comparison
  | conjunction => exact .comparison comparison
  | disjunction => exact .conjunction (.comparison comparison)

/-- A condition of the right shape is spelled by all tokens that are its signs. -/
theorem spells_of_stand_for (shaped : Shaped condition) (ranked : Ranked condition rank)
    (stand : StandFor tokens (yield (isCompared rank) condition)) :
    Spells rank tokens condition := by
  induction condition generalizing tokens rank with
  | literal content =>
    cases stand with
    | cons stands later =>
      cases later
      cases rank with
      | value =>
        cases stands with
        | text parsed => exact .operand (.text parsed)
        | word parsed => exact .word parsed
      | _ =>
        cases stands with
        | text parsed => exact spells_of_operand (.text parsed) _
  | reference name =>
    cases stand with
    | cons stands later =>
      cases later
      cases stands
      exact spells_of_operand .reference rank
  | compare comparison left right leftSpells rightSpells =>
    obtain ⟨⟨leftOperand, rightOperand⟩, leftShaped, rightShaped⟩ := shaped
    obtain ⟨before, after, rfl, first, rest⟩ := stand_for_split stand
    cases rest with
    | cons stands second =>
      cases stands
      exact spells_of_comparison (.compare (leftSpells leftShaped leftOperand first)
        (rightSpells rightShaped rightOperand second)) rfl ranked
  | search expected subject pattern ih =>
    obtain ⟨operand, shaped⟩ := shaped
    obtain ⟨before, after, rfl, first, rest⟩ := stand_for_split stand
    cases rest with
    | cons stands later => cases stands
    | search searches compiled later =>
      cases later
      rw [List.append_nil]
      exact spells_of_comparison (.search (ih shaped operand first) searches compiled) rfl ranked
  | not inner ih =>
    obtain ⟨operand, shaped⟩ := shaped
    cases stand with
    | cons stands later =>
      cases stands
      exact spells_of_operand (.not (ih shaped operand later)) rank
  | and left right leftSpells rightSpells =>
    obtain ⟨⟨leftRanked, rightRanked⟩, leftShaped, rightShaped⟩ := shaped
    obtain ⟨before, after, rfl, first, rest⟩ := stand_for_split stand
    cases rest with
    | cons stands second =>
      cases stands
      have leftPart : Spells .conjunction before left := leftSpells leftShaped leftRanked first
      have chain := Spells.and leftPart (rightSpells rightShaped rightRanked second)
      cases rank with
      | operand => cases ranked
      | value => cases ranked
      | comparison => exact absurd rfl ranked.1
      | conjunction => exact chain
      | disjunction => exact .conjunction chain
  | or left right leftSpells rightSpells =>
    obtain ⟨rightRanked, leftShaped, rightShaped⟩ := shaped
    obtain ⟨before, after, rfl, first, rest⟩ := stand_for_split stand
    cases rest with
    | cons stands second =>
      cases stands
      have leftPart : Spells .disjunction before left := leftSpells leftShaped trivial first
      have chain := Spells.or leftPart (rightSpells rightShaped rightRanked second)
      cases rank with
      | operand => cases ranked
      | value => cases ranked
      | comparison => exact absurd rfl ranked.2
      | conjunction => exact absurd rfl ranked
      | disjunction => exact chain
  | group inner ih =>
    cases stand with
    | cons stands later =>
      cases stands
      obtain ⟨before, after, rfl, first, rest⟩ := stand_for_split later
      cases rest with
      | cons stands last =>
        cases stands
        cases last
        have part : Spells .disjunction before inner := ih shaped trivial first
        exact spells_of_operand (.group part) rank

theorem spells_iff (tokens : List Token) (condition : Condition) :
    Spells .disjunction tokens condition ↔
      StandFor tokens (yield false condition) ∧ Shaped condition := by
  constructor
  · intro spells
    exact ⟨stand_for_of_spells spells, shaped_of_spells spells⟩
  · rintro ⟨stand, shaped⟩
    exact spells_of_stand_for shaped trivial stand

/-! ## Texts -/

/-- A text is read as a condition exactly if all of it is tokens, these tokens are the signs of the
condition from left to right, the condition is shaped as the precedence of the operators demands, and
it is counted no deeper than the limit. -/
theorem parse_yield (text : String) (condition : Condition) :
    Condition.parse text = .ok condition ↔
      (Lexemes.scan 0 text.toList).fault = none ∧
      StandFor ((Lexemes.scan 0 text.toList).list.map (·.token)) (yield false condition) ∧
      Shaped condition ∧ counted condition ≤ maxDepth := by
  rw [parse_ok_iff]
  constructor
  · rintro ⟨⟨faultless, spells⟩, within⟩
    obtain ⟨stand, shaped⟩ := (spells_iff _ _).1 spells
    exact ⟨faultless, stand, shaped, within⟩
  · rintro ⟨faultless, stand, shaped, within⟩
    exact ⟨⟨faultless, (spells_iff _ _).2 ⟨stand, shaped⟩⟩, within⟩

end ServerIncludes.ConditionYield
