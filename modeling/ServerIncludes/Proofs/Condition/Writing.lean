import ServerIncludes.Proofs.Condition.Lexing
import ServerIncludes.Proofs.Condition.Yield
import ServerIncludes.Proofs.Template.Writing

/-! Conditions are read back from a spelling of their own: variables in braces, texts and patterns
quoted, blanks around operators. That holds of every condition that is read from some text, and of
every condition of the right shape that has no more operators and parentheses than the limit. -/
namespace ServerIncludes.ConditionWriting

open ConditionReader ConditionGrammar ConditionCompleteness ConditionLexing ConditionYield
open TemplateWriting

/-! ## The spelling -/

def comparisonSymbol : Comparison → List Char
  | .equal => ['=', '=']
  | .notEqual => ['!', '=']
  | .less => ['<']
  | .lessEqual => ['<', '=']
  | .greater => ['>']
  | .greaterEqual => ['>', '=']

/-- The spelling of a condition whose texts and patterns are put between marks. -/
def write (mark : Char) : Condition → List Char
  | .literal content => quoted mark content.write.toList
  | .reference name => '$' :: '{' :: (name.toList ++ ['}'])
  | .compare comparison left right =>
    write mark left ++ ' ' :: (comparisonSymbol comparison ++ ' ' :: write mark right)
  | .search expected subject pattern =>
    write mark subject ++
      ' ' :: (if expected then '=' else '!') :: '~' :: ' ' :: quoted mark pattern.source.toList
  | .not inner => '!' :: ' ' :: write mark inner
  | .and left right => write mark left ++ ' ' :: '&' :: '&' :: ' ' :: write mark right
  | .or left right => write mark left ++ ' ' :: '|' :: '|' :: ' ' :: write mark right
  | .group inner => '(' :: (write mark inner ++ [')'])

/-- The tokens of the spelling. -/
def spelling : Condition → List Token
  | .literal content => [.text content.write]
  | .reference name => [.reference name]
  | .compare comparison left right => spelling left ++ .comparison comparison :: spelling right
  | .search expected subject pattern => spelling subject ++ [.search expected, .text pattern.source]
  | .not inner => .not :: spelling inner
  | .and left right => spelling left ++ .and :: spelling right
  | .or left right => spelling left ++ .or :: spelling right
  | .group inner => .leftParen :: (spelling inner ++ [.rightParen])

/-- The variables of a condition by name, those in texts left out. -/
def references : Condition → List String
  | .literal _ => []
  | .reference name => [name]
  | .compare _ left right => references left ++ references right
  | .search _ subject _ => references subject
  | .not inner => references inner
  | .and left right => references left ++ references right
  | .or left right => references left ++ references right
  | .group inner => references inner

/-- The texts of a condition. -/
def texts : Condition → List Template
  | .literal content => [content]
  | .reference _ => []
  | .compare _ left right => texts left ++ texts right
  | .search _ subject _ => texts subject
  | .not inner => texts inner
  | .and left right => texts left ++ texts right
  | .or left right => texts left ++ texts right
  | .group inner => texts inner

/-- The parentheses, negations and logical operators of a condition. -/
def operators : Condition → Nat
  | .literal _ => 0
  | .reference _ => 0
  | .compare _ left right => operators left + operators right
  | .search _ subject _ => operators subject
  | .not inner => operators inner + 1
  | .and left right => operators left + operators right + 1
  | .or left right => operators left + operators right + 1
  | .group inner => operators inner + 1

/-- Conditions whose variables have names that braces can hold and whose texts are such as are read
from values. -/
structure Spellable (condition : Condition) : Prop where
  names : ∀ name ∈ references condition, name ≠ "" ∧ '}' ∉ name.toList
  canonical : ∀ content ∈ texts condition, Canonical content.segments

/-! ## Reading the spelling -/

theorem reads_space (later : Reads text tokens) : Reads (' ' :: text) tokens :=
  reads_blank rfl later

theorem reads_comparison (comparison : Comparison) (later : Reads text tokens) :
    Reads (' ' :: (comparisonSymbol comparison ++ ' ' :: text))
      (.comparison comparison :: tokens) := by
  refine reads_space ?_
  cases comparison <;> exact reads_cons rfl rfl (reads_space later)

theorem reads_search (expected : Bool) (later : Reads text tokens) :
    Reads (' ' :: (if expected then '=' else '!') :: '~' :: ' ' :: text)
      (.search expected :: tokens) := by
  refine reads_space ?_
  cases expected <;> exact reads_cons rfl rfl (reads_space later)

/-- The spelling in front of a text is read as its tokens, whatever the text goes on with. -/
theorem reads_write (isMark : mark = '"' ∨ mark = '\'')
    (names : ∀ name ∈ references condition, name ≠ "" ∧ '}' ∉ name.toList)
    (later : Reads text tokens) :
    Reads (write mark condition ++ text) (spelling condition ++ tokens) := by
  induction condition generalizing text tokens with
  | literal content =>
    have quoted := reads_quoted isMark content.write.toList later
    rwa [String.ofList_toList] at quoted
  | reference name =>
    obtain ⟨nonempty, closes⟩ := names name List.mem_cons_self
    have braced := reads_reference (by simpa using nonempty) closes later
    rw [String.ofList_toList] at braced
    simpa [write, spelling] using braced
  | compare comparison left right leftReads rightReads =>
    obtain ⟨leftNames, rightNames⟩ := List.forall_mem_append.1 names
    simpa [write, spelling] using
      leftReads leftNames (reads_comparison comparison (rightReads rightNames later))
  | search expected subject pattern ih =>
    have quoted := reads_quoted isMark pattern.source.toList later
    rw [String.ofList_toList] at quoted
    simpa [write, spelling] using ih names (reads_search expected quoted)
  | not inner ih => exact reads_cons rfl rfl (reads_space (ih names later))
  | and left right leftReads rightReads =>
    obtain ⟨leftNames, rightNames⟩ := List.forall_mem_append.1 names
    have operator := reads_and (reads_space (rightReads rightNames later))
    simpa [write, spelling] using leftReads leftNames (reads_space operator)
  | or left right leftReads rightReads =>
    obtain ⟨leftNames, rightNames⟩ := List.forall_mem_append.1 names
    have operator := reads_or (reads_space (rightReads rightNames later))
    simpa [write, spelling] using leftReads leftNames (reads_space operator)
  | group inner ih =>
    simpa [write, spelling] using reads_left_paren (ih names (reads_right_paren later))

/-- The tokens of the spelling are the signs of the condition. -/
theorem stand_for_tokens (canonical : ∀ content ∈ texts condition, Canonical content.segments)
    (compared : Bool) : StandFor (spelling condition) (yield compared condition) := by
  induction condition generalizing compared with
  | literal content =>
    exact stand_for_token (.text (parse_write_of_canonical (canonical content List.mem_cons_self)))
  | reference name => exact stand_for_token .reference
  | compare comparison left right leftStands rightStands =>
    obtain ⟨leftTexts, rightTexts⟩ := List.forall_mem_append.1 canonical
    apply stand_for_append (leftStands leftTexts true)
    exact .cons .comparison (rightStands rightTexts true)
  | search expected subject pattern ih =>
    have searched : StandFor [.search expected, .text pattern.source] [.search expected pattern] :=
      .search .text (Pattern.ofText?_source pattern) .nil
    exact stand_for_append (ih canonical true) searched
  | not inner ih => exact .cons .not (ih canonical false)
  | and left right leftStands rightStands =>
    obtain ⟨leftTexts, rightTexts⟩ := List.forall_mem_append.1 canonical
    exact stand_for_append (leftStands leftTexts false) (.cons .and (rightStands rightTexts false))
  | or left right leftStands rightStands =>
    obtain ⟨leftTexts, rightTexts⟩ := List.forall_mem_append.1 canonical
    exact stand_for_append (leftStands leftTexts false) (.cons .or (rightStands rightTexts false))
  | group inner ih =>
    exact .cons .leftParen (stand_for_append (ih canonical false) (stand_for_token .rightParen))

/-- A condition that can be spelled is read from its spelling, if the limit allows it. -/
theorem parse_write (isMark : mark = '"' ∨ mark = '\'') (shaped : Shaped condition)
    (spellable : Spellable condition) (within : counted condition ≤ maxDepth) :
    Condition.parse (String.ofList (write mark condition)) = .ok condition := by
  obtain ⟨faultless, same⟩ := reads_write isMark spellable.names reads_nil 0
  rw [List.append_nil, List.append_nil] at same
  rw [List.append_nil] at faultless
  refine (parse_ok_iff _ _).2 ⟨⟨?_, ?_⟩, within⟩
  · rwa [String.toList_ofList]
  · rw [String.toList_ofList, same]
    exact (spells_iff _ _).2 ⟨stand_for_tokens spellable.canonical false, shaped⟩

/-! ## What has been read can be spelled -/

/-- The variables of a condition are among the tokens that spell it. -/
theorem reference_mem_of_spells (spells : Spells rank tokens condition)
    (member : name ∈ references condition) : .reference name ∈ tokens := by
  induction spells with
  | text parsed => cases member
  | word parsed => cases member
  | reference =>
    cases List.mem_singleton.1 member
    exact List.mem_singleton_self _
  | not inner ih => exact .tail _ (ih member)
  | group inner ih => simp [ih member]
  | compare left right leftIn rightIn =>
    rcases List.mem_append.1 member with isLeft | isRight
    · simp [leftIn isLeft]
    · simp [rightIn isRight]
  | search subject searches compiled ih => simp [ih member]
  | and left right leftIn rightIn =>
    rcases List.mem_append.1 member with isLeft | isRight
    · simp [leftIn isLeft]
    · simp [rightIn isRight]
  | or left right leftIn rightIn =>
    rcases List.mem_append.1 member with isLeft | isRight
    · simp [leftIn isLeft]
    · simp [rightIn isRight]
  | operand operand ih => exact ih member
  | alone operand ih => exact ih member
  | comparison comparison ih => exact ih member
  | conjunction conjunction ih => exact ih member

theorem canonical_of_spells (spells : Spells rank tokens condition) :
    ∀ content ∈ texts condition, Canonical content.segments := by
  induction spells with
  | text parsed => simpa [texts] using canonical_of_parse parsed
  | word parsed => simpa [texts] using canonical_of_parse parsed
  | reference => exact nofun
  | compare left right first second => exact List.forall_mem_append.2 ⟨first, second⟩
  | and left right first second => exact List.forall_mem_append.2 ⟨first, second⟩
  | or left right first second => exact List.forall_mem_append.2 ⟨first, second⟩
  | _ => assumption

theorem name_of_front (front : Front (.reference name) source after) :
    name ≠ "" ∧ '}' ∉ name.toList := by
  cases front with
  | symbol found => exact absurd rfl (not_reference_of_symbol found name)
  | braced nonempty closes => exact ⟨by simpa using nonempty, by simpa using closes⟩
  | bare nonempty named ends =>
    refine ⟨by simpa using nonempty, fun member => ?_⟩
    have isName := named '}' (by simpa using member)
    cases isName

/-- A variable among the tokens of a text has a name that braces can hold. -/
theorem name_of_lexed (lexed : Lexed text tokens) (member : .reference name ∈ tokens) :
    name ≠ "" ∧ '}' ∉ name.toList := by
  induction lexed with
  | done blanks => cases member
  | token blanks front later ih =>
    rcases List.mem_cons.1 member with rfl | member
    · exact name_of_front front
    · exact ih member

theorem spellable_of_parse (parsed : Condition.parse text = .ok condition) :
    Spellable condition := by
  obtain ⟨⟨faultless, spells⟩, _⟩ := (parse_ok_iff text condition).1 parsed
  exact ⟨fun name member => name_of_lexed (lexed_of_scan faultless)
    (reference_mem_of_spells spells member), canonical_of_spells spells⟩

/-- A condition that has been read is read from its spelling, with quotes of either kind. -/
theorem parse_write_of_parse (isMark : mark = '"' ∨ mark = '\'')
    (parsed : Condition.parse text = .ok condition) :
    Condition.parse (String.ofList (write mark condition)) = .ok condition := by
  obtain ⟨⟨_, spells⟩, within⟩ := (parse_ok_iff text condition).1 parsed
  exact parse_write isMark (shaped_of_spells spells) (spellable_of_parse parsed) within

/-- The depth counted is no more than the number of operators and parentheses. -/
theorem counted_le_operators (condition : Condition) : counted condition ≤ operators condition := by
  induction condition with
  | literal content => exact Nat.zero_le _
  | reference name => exact Nat.zero_le _
  | compare comparison left right first second =>
    simp only [counted, operators]
    omega
  | search expected subject pattern ih => exact ih
  | not inner ih => exact Nat.succ_le_succ ih
  | and left right first second =>
    have shorter := conjunctions_le_counted left
    simp only [counted, operators]
    omega
  | or left right first second =>
    have shorter := disjunctions_le_counted left
    simp only [counted, operators]
    omega
  | group inner ih => exact Nat.succ_le_succ ih

/-- A condition that has been read from any text is read from its own spelling as well, and so is
each condition of the right shape that can be spelled and has no more operators and parentheses than
the limit. -/
theorem parse_write_read :
    (∀ text condition, Condition.parse text = .ok condition →
      Condition.parse (String.ofList (write '"' condition)) = .ok condition) ∧
    ∀ condition, Shaped condition → Spellable condition → operators condition ≤ maxDepth →
      Condition.parse (String.ofList (write '"' condition)) = .ok condition := by
  constructor
  · intro text condition parsed
    exact parse_write_of_parse (.inl rfl) parsed
  · intro condition shaped spellable few
    have within := Nat.le_trans (counted_le_operators condition) few
    exact parse_write (.inl rfl) shaped spellable within

/-- A condition read from a text with markers, a bare word and a pattern between slashes, and one
with a text that needs every escape. -/
theorem parse_write_escapes :
    (∃ condition,
      Condition.parse "!$a = \\n && (\"\\\"$b\" =~ /x\\/y/ || $\x7bc d\x7d >= '')" = .ok condition ∧
        Condition.parse (String.ofList (write '"' condition)) = .ok condition) ∧
    ∃ condition, Shaped condition ∧ Spellable condition ∧ operators condition = 5 ∧
      String.ofList (write '"' condition) =
        "! ($\x7ba b\x7d && \"\\\\\\\\\\\\$\\\"$\x7bc\x7d\") || ! $\x7bd\x7d" ∧
      Condition.parse (String.ofList (write '"' condition)) = .ok condition := by
  refine ⟨?_, ?_⟩
  · have readable : (Condition.parse
        "!$a = \\n && (\"\\\"$b\" =~ /x\\/y/ || $\x7bc d\x7d >= '')").isOk = true := by decide +kernel
    cases parsed : Condition.parse "!$a = \\n && (\"\\\"$b\" =~ /x\\/y/ || $\x7bc d\x7d >= '')" with
    | error error => rw [parsed] at readable; cases readable
    | ok condition => exact ⟨condition, rfl, parse_write_read.1 _ condition parsed⟩
  · have shaped : Shaped (.or (.not (.group (.and (.reference "a b")
        (.literal ⟨[.text "\\\\$\"", .marker "c"]⟩)))) (.not (.reference "d"))) := by
      simp [Shaped, isOperand, isAnd, isOr]
    have spellable : Spellable (.or (.not (.group (.and (.reference "a b")
        (.literal ⟨[.text "\\\\$\"", .marker "c"]⟩)))) (.not (.reference "d"))) :=
      ⟨by decide, by simp [texts, Canonical, MayFollow]⟩
    exact ⟨_, shaped, spellable, rfl, by decide, parse_write_read.2 _ shaped spellable (by decide)⟩

end ServerIncludes.ConditionWriting
