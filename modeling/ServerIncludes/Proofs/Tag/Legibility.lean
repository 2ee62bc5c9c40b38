import ServerIncludes.Proofs.Condition.Writing
import ServerIncludes.Proofs.Tag.Writing

/-! Templates and conditions that are read from a legible value have a legible spelling. Both are
spelled differently from how they were read, so what a backslash belongs to is followed through the
value and through the spelling side by side. -/
namespace ServerIncludes.Legibility

open ConditionCompleteness ConditionLexing ConditionWriting TagWriting TemplateWriting
open Template (isNameChar ofPieces)

/-! ## Templates -/

theorem step_plain {c : Char} (notBackslash : c ≠ '\\') (notQuote : c ≠ '"') (paired : Bool) :
    step paired c = some false := by
  cases paired <;> simp [step, notBackslash, notQuote]

theorem through_plain {text : List Char} (plain : ∀ c ∈ text, c ≠ '\\') :
    through false text = some false := by
  induction text with
  | nil => rfl
  | cons c rest ih =>
    obtain ⟨notBackslash, plain⟩ := List.forall_mem_cons.1 plain
    have state : (c == '\\') = false := by simpa using notBackslash
    simpa [step, state] using ih plain

theorem through_name {name : List Char} (named : ∀ c ∈ name, isNameChar c = true) :
    through false name = some false := by
  apply through_plain
  rintro c member rfl
  exact absurd (named _ member) (by decide)

/-- Whatever is in front of it, a dollar sign with its brace leaves no backslash open. -/
theorem through_opening (paired : Bool) (rest : List Char) :
    through paired ('$' :: '{' :: rest) = through false rest := by
  cases paired <;> rfl

theorem through_braces (passes : through false name = some state) (paired : Bool)
    (rest : List Char) :
    through paired ('$' :: '{' :: (name ++ '}' :: rest)) = through false rest := by
  have closing : step state '}' = some false := step_plain (by decide) (by decide) state
  rw [through_opening, through_append, passes, Option.bind_some, through_cons, closing,
    Option.bind_some]

theorem front_of_through (passed : through paired (front ++ rest) = some final) :
    ∃ state, through paired front = some state ∧ through state rest = some final := by
  rw [through_append] at passed
  exact Option.bind_eq_some_iff.1 passed

theorem unpaired_of_dollar {rest : List Char}
    (apart : paired = true → ('$' :: rest).head? ≠ some '$') : paired = false := by
  cases paired with
  | false => rfl
  | true => exact absurd rfl (apart rfl)

/-- The pieces of a value are gone through as the value itself is. A marker that is written with
braces never stands behind a backslash that would have escaped it. -/
theorem through_pieces (reading : Reading value parts) (passed : through paired value = some final)
    (apart : paired = true → value.head? ≠ some '$') :
    through paired (parts.flatMap writePiece) = some final := by
  induction reading generalizing paired with
  | done => exact passed
  | @escaped rest parts later ih =>
    have same : through paired ('\\' :: '$' :: rest) = through false rest := by
      cases paired <;> rfl
    rw [same] at passed
    have written : through paired ((Template.Piece.char '$' :: parts).flatMap writePiece) =
        through false (parts.flatMap writePiece) := by
      cases paired <;> rfl
    rw [written]
    exact ih passed nofun
  | @braced name rest parts nonempty closes later ih =>
    have inner := passed
    rw [through_opening] at inner
    obtain ⟨state, passes, _⟩ := front_of_through inner
    rw [through_braces passes] at passed
    have written : (Template.Piece.marker name :: parts).flatMap writePiece =
        '$' :: '{' :: (name ++ '}' :: parts.flatMap writePiece) := by
      simp [writePiece]
    rw [written, through_braces passes]
    exact ih passed nofun
  | @bare first name rest parts named ends later ih =>
    have passes := through_name named
    have unpaired := unpaired_of_dollar apart
    subst unpaired
    have same : through false ('$' :: first :: (name ++ rest)) = through false rest := by
      have split : '$' :: first :: (name ++ rest) = ['$'] ++ ((first :: name) ++ rest) := rfl
      have dollar : through false ['$'] = some false := rfl
      rw [split, through_append, dollar, Option.bind_some, through_append, passes, Option.bind_some]
    rw [same] at passed
    have written : (Template.Piece.marker (first :: name) :: parts).flatMap writePiece =
        '$' :: '{' :: ((first :: name) ++ '}' :: parts.flatMap writePiece) := by
      simp [writePiece]
    rw [written, through_braces passes]
    exact ih passed nofun
  | @dollar rest parts notName later ih =>
    have unpaired := unpaired_of_dollar apart
    subst unpaired
    exact ih passed nofun
  | @plain c rest parts notDollar unescaped later ih =>
    have written : (Template.Piece.char c :: parts).flatMap writePiece =
        c :: parts.flatMap writePiece := by
      simp [writePiece, notDollar]
    rw [written, through_cons]
    rw [through_cons] at passed
    obtain ⟨state, passes, passed⟩ := Option.bind_eq_some_iff.1 passed
    rw [passes, Option.bind_some]
    apply ih passed
    rintro rfl starts
    cases paired with
    | false =>
      have backslash : c = '\\' := by simpa [step] using passes
      exact unescaped backslash starts
    | true => simp [step] at passes

theorem legible_template (legible : Legible value.toList)
    (parsed : Template.parse value = .ok template) : Legible template.write.toList := by
  obtain ⟨parts, reading, rfl⟩ := (parse_ok_iff_reading value template).1 parsed
  have written : (ofPieces parts).write.toList = parts.flatMap writePiece := by
    rw [Template.write, String.toList_ofList, ← write_spread]
    exact congrArg (List.flatMap writePiece) (spread_gather parts)
  rw [legible_iff_through] at legible ⊢
  rw [written]
  exact through_pieces reading legible fun paired => absurd paired Bool.false_ne_true

/-! ## Conditions -/

/-- A name among the tokens of a text can be gone through by itself: what is in front of it leaves
no backslash open. -/
theorem through_token (lexed : Lexed text tokens) (passed : through paired text = some final)
    (member : .reference name ∈ tokens) : ∃ state, through false name.toList = some state := by
  induction lexed generalizing paired with
  | done blanks => cases member
  | @token gap token source after tokens blanks front later ih =>
    obtain ⟨behindGap, _, passed⟩ := front_of_through passed
    obtain ⟨behindToken, passedToken, passed⟩ := front_of_through passed
    rcases List.mem_cons.1 member with rfl | member
    · cases front with
      | symbol found => exact absurd rfl (not_reference_of_symbol found name)
      | braced nonempty closes =>
        rw [through_opening] at passedToken
        obtain ⟨state, passes, _⟩ := front_of_through passedToken
        exact ⟨state, by simpa using passes⟩
      | bare nonempty named ends => exact ⟨false, by simpa using through_name named⟩
    · exact ih passed member

/-- In quotes of the other kind each backslash is paired. -/
theorem through_quoted (content : List Char) :
    through false (quoted '\'' content) = some false := by
  have escaped : through false (escape '\'' content) = some false := by
    induction content with
    | nil => rfl
    | cons c content ih =>
      by_cases special : c = '\'' ∨ c = '\\'
      · rw [escape_special special]
        have notQuote : c ≠ '"' := by
          rintro rfl
          exact absurd special (by decide)
        simpa [step, notQuote] using ih
      · obtain ⟨notMark, notBackslash⟩ := not_or.1 special
        rw [escape_plain notMark notBackslash]
        have state : (c == '\\') = false := by simpa using notBackslash
        simpa [step, state] using ih
  rw [quoted, through_cons]
  have opening : step false '\'' = some false := rfl
  rw [opening, Option.bind_some, through_append, escaped]
  rfl

theorem through_both (first : through false front = some false)
    (second : through false rest = some false) : through false (front ++ rest) = some false := by
  rw [through_append, first, Option.bind_some, second]

theorem through_comparison (comparison : Comparison) (rest : List Char) :
    through false (' ' :: (comparisonSymbol comparison ++ ' ' :: rest)) = through false rest := by
  cases comparison <;> rfl

theorem through_search (expected : Bool) (rest : List Char) :
    through false (' ' :: (if expected then '=' else '!') :: '~' :: ' ' :: rest) =
      through false rest := by
  cases expected <;> rfl

theorem through_write
    (names : ∀ name ∈ references condition, ∃ state, through false name.toList = some state) :
    through false (write '\'' condition) = some false := by
  induction condition with
  | literal content => exact through_quoted content.write.toList
  | reference name =>
    obtain ⟨state, passes⟩ := names name List.mem_cons_self
    exact through_braces passes false []
  | compare comparison left right leftPasses rightPasses =>
    obtain ⟨leftNames, rightNames⟩ := List.forall_mem_append.1 names
    apply through_both (leftPasses leftNames)
    rw [through_comparison]
    exact rightPasses rightNames
  | search expected subject pattern ih =>
    apply through_both (ih names)
    rw [through_search]
    exact through_quoted pattern.source.toList
  | not inner ih => exact ih names
  | and left right leftPasses rightPasses =>
    obtain ⟨leftNames, rightNames⟩ := List.forall_mem_append.1 names
    exact through_both (leftPasses leftNames) (rightPasses rightNames)
  | or left right leftPasses rightPasses =>
    obtain ⟨leftNames, rightNames⟩ := List.forall_mem_append.1 names
    exact through_both (leftPasses leftNames) (rightPasses rightNames)
  | group inner ih =>
    have opened : through false ('(' :: write '\'' inner) = some false := ih names
    exact through_both opened rfl

theorem legible_condition (legible : Legible text.toList)
    (parsed : Condition.parse text = .ok condition) : Legible (write '\'' condition) := by
  obtain ⟨⟨faultless, spells⟩, _⟩ := (parse_ok_iff text condition).1 parsed
  rw [legible_iff_through] at legible ⊢
  apply through_write
  intro name member
  exact through_token (lexed_of_scan faultless) legible (reference_mem_of_spells spells member)

end ServerIncludes.Legibility
