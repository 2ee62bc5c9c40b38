import Mathlib.Data.List.Infix
import ServerIncludes.Proofs.Condition.Viability
import ServerIncludes.Proofs.Template.Markers

/-! Where the faults of a condition are reported. The column is the place of the token that is at
fault, of the end of the text, or of the marker in it that cannot be read; only of a marker in a
quoted text it is the place in what the text says, so that it lies before the marker as it is written
by as many octets as there are backslashes left out. -/
namespace ServerIncludes.ConditionColumns

open ConditionCompleteness ConditionGrammar ConditionLexing ConditionReader ConditionSoundness
open ConditionViability MarkerFaults Parts
open Lexeme (unescape)
open Unicode (isBlank)

/-! ## Tokens in their places -/

/-- Tokens, with blanks before each of them and behind the last, in front of a text. -/
inductive Tokenised : List Token → List Char → List Char → Prop where
  | nothing (blanks : ∀ c ∈ gap, isBlank c = true) : Tokenised [] gap rest
  | token (blanks : ∀ c ∈ gap, isBlank c = true) (front : Front token source (before ++ rest))
      (later : Tokenised tokens before rest) :
    Tokenised (token :: tokens) (gap ++ (source ++ before)) rest

theorem tokenised_gap (tokenised : Tokenised tokens before (gap ++ rest))
    (blanks : ∀ c ∈ gap, isBlank c = true) : Tokenised tokens (before ++ gap) rest := by
  generalize same : gap ++ rest = behind at tokenised
  induction tokenised with
  | nothing others => exact .nothing (List.forall_mem_append.2 ⟨others, blanks⟩)
  | token others front later ih =>
    subst same
    rw [List.append_assoc, List.append_assoc]
    exact .token others (by rwa [List.append_assoc]) (ih rfl)

/-- The first token of a text, and what is read behind it. -/
theorem scan_lexeme (starts : (Lexemes.scan column text).list = lexeme :: later) :
    ∃ gap after, text = gap ++ (lexeme.source ++ after) ∧ (∀ c ∈ gap, isBlank c = true) ∧
      Front lexeme.token lexeme.source after ∧ lexeme.column = column + utf8Length gap ∧
      Lexemes.scan (lexeme.column + utf8Length lexeme.source) after =
        ⟨later, (Lexemes.scan column text).fault⟩ := by
  have blanks : ∀ c ∈ text.takeWhile isBlank, isBlank c = true :=
    fun c member => List.mem_takeWhile_imp member
  cases trimmed : text.dropWhile isBlank with
  | nil =>
    rw [scan_empty trimmed] at starts
    cases starts
  | cons first rest =>
    cases next : Lexeme.next first rest with
    | error fault =>
      rw [scan_fault trimmed next] at starts
      cases starts
    | ok found =>
      obtain ⟨token, length⟩ := found
      have visible : isBlank first = false := by
        simpa [trimmed] using head_dropWhile isBlank text
      obtain ⟨source, after, whole, rfl, front⟩ := front_of_next visible next
      have scanned := scan_token trimmed next column
      rw [whole, List.drop_left, List.take_left] at scanned
      rw [scanned] at starts ⊢
      cases starts
      refine ⟨text.takeWhile isBlank, after, ?_, blanks, front, rfl, rfl⟩
      rw [← whole, ← trimmed, List.takeWhile_append_dropWhile]

/-- Behind some of the tokens of a text the others are read. -/
theorem scan_front {earlier later : List Lexeme}
    (split : (Lexemes.scan column text).list = earlier ++ later) :
    ∃ before rest, text = before ++ rest ∧ Tokenised (earlier.map (·.token)) before rest ∧
      Lexemes.scan (column + utf8Length before) rest =
        ⟨later, (Lexemes.scan column text).fault⟩ := by
  induction earlier generalizing column text with
  | nil =>
    refine ⟨[], text, rfl, .nothing (List.forall_mem_nil _), ?_⟩
    rw [← List.nil_append later, ← split]
    rfl
  | cons lexeme earlier ih =>
    obtain ⟨gap, after, rfl, blanks, front, stands, scanned⟩ := scan_lexeme split
    have others : (Lexemes.scan (lexeme.column + utf8Length lexeme.source) after).list =
        earlier ++ later := by rw [scanned]; rfl
    obtain ⟨before, rest, rfl, tokenised, left⟩ := ih others
    refine ⟨gap ++ (lexeme.source ++ before), rest, by simp, .token blanks front tokenised, ?_⟩
    rw [utf8_length_append, utf8_length_append, ← Nat.add_assoc, ← Nat.add_assoc, ← stands, left,
      scanned]

/-- A token in its place, behind tokens that some condition begins with. -/
structure Stands (text : List Char) (earlier : List Token) (before : List Char) (token : Token)
    (source after : List Char) : Prop where
  whole : text = before ++ (source ++ after)
  tokens : Tokenised earlier before (source ++ after)
  front : Front token source after
  viable : Viable earlier

theorem stands_of_scan {earlier later : List Lexeme}
    (split : (Lexemes.scan 0 text).list = earlier ++ lexeme :: later)
    (viable : Viable (earlier.map (·.token))) :
    ∃ before after,
      Stands text (earlier.map (·.token)) before lexeme.token lexeme.source after ∧
      lexeme.column = utf8Length before ∧
      Lexemes.scan (lexeme.column + utf8Length lexeme.source) after =
        ⟨later, (Lexemes.scan 0 text).fault⟩ := by
  obtain ⟨before, rest, rfl, tokenised, scanned⟩ := scan_front split
  obtain ⟨gap, after, rfl, blanks, front, stands, left⟩ :=
    scan_lexeme (congrArg Lexemes.list scanned)
  rw [scanned] at left
  refine ⟨before ++ gap, after, ⟨by simp, tokenised_gap tokenised blanks, front, viable⟩, ?_, left⟩
  rw [stands, utf8_length_append, Nat.zero_add]

/-- What keeps a text from having more tokens stands behind those it has. -/
theorem fault_of_scan (faulty : (Lexemes.scan 0 text).fault = some (place, fault)) :
    ∃ before first rest, text = before ++ first :: rest ∧
      Tokenised ((Lexemes.scan 0 text).list.map (·.token)) before (first :: rest) ∧
      isBlank first = false ∧ Lexeme.next first rest = .error fault ∧ place = utf8Length before := by
  obtain ⟨before, rest, split, tokenised, scanned⟩ :=
    scan_front (List.append_nil (Lexemes.scan 0 text).list).symm
  rw [faulty] at scanned
  cases trimmed : rest.dropWhile isBlank with
  | nil =>
    rw [scan_empty trimmed] at scanned
    cases scanned
  | cons first after =>
    have whole : rest.takeWhile isBlank ++ first :: after = rest := by
      rw [← trimmed, List.takeWhile_append_dropWhile]
    have visible : isBlank first = false := by
      simpa [trimmed] using head_dropWhile isBlank rest
    cases next : Lexeme.next first after with
    | ok found =>
      rw [scan_token trimmed next] at scanned
      cases scanned
    | error other =>
      rw [scan_fault trimmed next] at scanned
      cases scanned
      refine ⟨before ++ rest.takeWhile isBlank, first, after, ?_, ?_, visible, next, ?_⟩
      · rw [List.append_assoc, whole, split]
      · refine tokenised_gap ?_ fun c member => List.mem_takeWhile_imp member
        rwa [whole]
      · rw [utf8_length_append, Nat.zero_add]

theorem blanks_of_scan (scanned : Lexemes.scan column text = ⟨[], none⟩) :
    ∀ c ∈ text, isBlank c = true := by
  cases trimmed : text.dropWhile isBlank with
  | nil => exact List.dropWhile_eq_nil_iff.1 trimmed
  | cons first rest =>
    cases next : Lexeme.next first rest with
    | ok found =>
      rw [scan_token trimmed next] at scanned
      cases scanned
    | error fault =>
      rw [scan_fault trimmed next] at scanned
      cases scanned

theorem tokenised_of_faultless (faultless : (Lexemes.scan 0 text).fault = none) :
    Tokenised ((Lexemes.scan 0 text).list.map (·.token)) text [] := by
  obtain ⟨before, rest, split, tokenised, scanned⟩ :=
    scan_front (List.append_nil (Lexemes.scan 0 text).list).symm
  rw [faultless] at scanned
  have whole : Tokenised ((Lexemes.scan 0 text).list.map (·.token)) (before ++ rest) [] := by
    refine tokenised_gap ?_ (blanks_of_scan scanned)
    rwa [List.append_nil]
  rwa [← split] at whole

theorem not_text_of_symbol (found : Lexeme.symbol? text = some (token, length)) (content : String) :
    token ≠ .text content := by
  rintro rfl
  unfold Lexeme.symbol? at found
  split at found <;> simp at found

theorem not_word_of_symbol (found : Lexeme.symbol? text = some (token, length)) (content : String) :
    token ≠ .word content := by
  rintro rfl
  unfold Lexeme.symbol? at found
  split at found <;> simp at found

/-! ## Columns -/

/-- What a text between quotes says. -/
def unquoted (mark : Char) (body : List Char) : List Char :=
  unescape (fun c => c == mark || c == '\\') body

/-- No operator that compares or searches is what a text goes on with. -/
inductive NotCompared (text : List Char) : Prop where
  | ends (blanks : ∀ c ∈ text, isBlank c = true)
  | token (whole : text = gap ++ (source ++ rest)) (blanks : ∀ c ∈ gap, isBlank c = true)
      (front : Front token source rest) (apart : ¬ Relates token)

/-- What a column tells of a text that is no condition. -/
inductive PointsTo (text : List Char) : Nat → ConditionFault → Prop where
  | nothing (blanks : ∀ c ∈ text, isBlank c = true) : PointsTo text 0 .noTokens
  /-- What cannot be read as a token. -/
  | untokenised (whole : text = before ++ first :: rest)
      (tokens : Tokenised earlier before (first :: rest)) (visible : isBlank first = false)
      (failed : Lexeme.next first rest = .error fault) (usable : Usable earlier) :
    PointsTo text (utf8Length before) fault
  /-- The first token that no condition goes on with. -/
  | unusable (stands : Stands text earlier before token source after)
      (dead : ¬ Viable (earlier ++ [token])) (own : TokenFault token fault) :
    PointsTo text (utf8Length before) fault
  | notCompared (stands : Stands text earlier before (.word content) source after)
      (alone : NotCompared after) : PointsTo text (utf8Length before) (.bareWord content)
  /-- The end, where a condition has begun and is not complete. -/
  | ended (tokens : Tokenised given text []) (nonempty : given ≠ []) (viable : Viable given)
      (incomplete : ∀ condition, ¬ Fits 0 .disjunction given condition) (early : EndFault fault) :
    PointsTo text (utf8Length text) fault
  | markerInWord
      (stands : Stands text earlier before (.word content) (start ++ '$' :: '{' :: rest) after)
      (plain : EndsPlain start) (unread : Unreadable fault rest) :
    PointsTo text (utf8Length (before ++ start)) (.markerInText fault)
  /-- The place of the marker in what the text between the quotes says. -/
  | markerInText (isMark : mark = '"' ∨ mark = '\'')
      (stands : Stands text earlier before (.text content)
        (mark :: (start ++ '$' :: '{' :: rest ++ [mark])) after)
      (plain : EndsPlain (unquoted mark start)) (unread : Unreadable fault rest) :
    PointsTo text (utf8Length before + 1 + utf8Length (unquoted mark start)) (.markerInText fault)

theorem points_to_word (stands : Stands text earlier before (.word content) source after)
    (unread : Template.parse content = .error error) :
    PointsTo text (utf8Length before + error.position) (.markerInText error.fault) := by
  cases stands.front with
  | symbol found => exact absurd rfl (not_word_of_symbol found content)
  | word nonempty inside ends =>
    have failed := error_of_map unread
    rw [String.toList_ofList] at failed
    obtain ⟨start, rest, rfl, plain, unreadable, here⟩ := located_of_pieces failed
    rw [here, Nat.zero_add, ← utf8_length_append]
    exact .markerInWord stands plain unreadable

/-- No backslash is left out before the characters that a marker is written with. -/
theorem kept_of_mark (isMark : mark = '"' ∨ mark = '\'') :
    ('$' == mark || '$' == '\\') = false ∧ ('{' == mark || '{' == '\\') = false ∧
      ('}' == mark || '}' == '\\') = false := by
  rcases isMark with rfl | rfl <;> exact ⟨rfl, rfl, rfl⟩

theorem points_to_text (stands : Stands text earlier before (.text content) source after)
    (unread : Template.parse content = .error error) :
    PointsTo text (utf8Length before + 1 + error.position) (.markerInText error.fault) := by
  cases stands.front with
  | symbol found => exact absurd rfl (not_text_of_symbol found content)
  | @text mark body after isMark delimited =>
    have failed := error_of_map unread
    rw [String.toList_ofList] at failed
    obtain ⟨front, rest, said, plain, unreadable, here⟩ := located_of_pieces failed
    obtain ⟨dollar, brace, closer⟩ := kept_of_mark isMark
    obtain ⟨start, behind, rfl, rfl, rfl⟩ := marker_of_unescape dollar brace said plain
    rw [here, Nat.zero_add]
    exact .markerInText isMark stands plain (unreadable_of_unescape closer unreadable)

/-- What follows a bare word and is read next neither compares nor searches. -/
theorem not_compared_of_scan (scanned : (Lexemes.scan column after).list = lexeme :: later)
    (apart : ¬ Relates lexeme.token) : NotCompared after := by
  obtain ⟨gap, rest, whole, blanks, front, -, -⟩ := scan_lexeme scanned
  exact .token whole blanks front apart

/-- Reading stops at a token. -/
theorem points_to_of_run
    (stopped : run State.start (Lexemes.scan 0 text).list = .error (.malformed column fault)) :
    PointsTo text column fault := by
  obtain ⟨earlier, lexeme, later, middle, split, ran, failed⟩ := lexeme_of_run stopped
  have token : ¬ HoldsWord middle.expected → ∃ before after,
      Stands text (earlier.map (·.token)) before lexeme.token lexeme.source after ∧
      lexeme.column = utf8Length before := by
    intro settled
    obtain ⟨before, after, stands, here, -⟩ := stands_of_scan split (viable_of_run ran settled)
    exact ⟨before, after, stands, here⟩
  -- the bare word that waits stands right before the token that is read
  have word : ∀ place content, middle.expected = .operator (.word place content) →
      ∃ given before source after, Stands text given before (.word content) source after ∧
        place = utf8Length before ∧ (¬ Relates lexeme.token → NotCompared after) := by
    intro place content held
    obtain ⟨others, last, rfl, isWord, rfl, viable⟩ := word_of_run ran held
    rw [List.append_assoc, List.singleton_append] at split
    obtain ⟨before, after, stands, here, scanned⟩ := stands_of_scan split viable
    rw [isWord] at stands
    exact ⟨_, before, _, after, stands, here,
      not_compared_of_scan (congrArg Lexemes.list scanned)⟩
  cases blames_of_take failed with
  | token settled own =>
    obtain ⟨before, after, stands, here⟩ := token settled
    have dead : run State.start (earlier ++ [lexeme]) = .error (.malformed lexeme.column fault) := by
      rw [run_append ran, run_singleton, failed]
    have notViable := not_viable_of_run dead
    rw [List.map_append, List.map_singleton] at notViable
    rw [here]
    exact .unusable stands notViable own
  | text settled isText unread =>
    obtain ⟨before, after, stands, here⟩ := token settled
    rw [isText] at stands
    rw [here]
    exact points_to_text stands unread
  | word settled isWord unread =>
    obtain ⟨before, after, stands, here⟩ := token settled
    rw [isWord] at stands
    rw [here]
    exact points_to_word stands unread
  | held held relates unread =>
    obtain ⟨given, before, source, after, stands, here, -⟩ := word _ _ held
    rw [here]
    exact points_to_word stands unread
  | alone held apart =>
    obtain ⟨given, before, source, after, stands, here, notCompared⟩ := word _ _ held
    rw [here]
    exact .notCompared stands (notCompared apart)

/-- Reading stops at the end. -/
theorem points_to_of_finish (faultless : (Lexemes.scan 0 text).fault = none)
    (nonempty : (Lexemes.scan 0 text).list ≠ [])
    (ran : run State.start (Lexemes.scan 0 text).list = .ok state)
    (failed : state.finish (utf8Length text) = .error (.malformed column fault)) :
    PointsTo text column fault := by
  rcases column_of_finish failed with ⟨rfl, early, settled⟩ | ⟨content, held, rfl⟩
  · refine .ended (tokenised_of_faultless faultless) (by simpa using nonempty)
      (viable_of_run ran settled) (fun condition fits => ?_) early
    obtain ⟨final, done, finished⟩ := finishes_of_fits fits rfl
    rw [ran] at done
    cases done
    rw [finished] at failed
    cases failed
  · obtain ⟨earlier, last, split, isWord, rfl, viable⟩ := word_of_run ran held
    obtain ⟨before, after, stands, here, scanned⟩ := stands_of_scan split viable
    rw [isWord] at stands
    rw [faultless] at scanned
    rw [here]
    exact .notCompared stands (.ends (blanks_of_scan scanned))

theorem points_to_of_parse (failed : Condition.parse text = .error (.malformed column fault)) :
    PointsTo text.toList column fault := by
  unfold Condition.parse readLexemes at failed
  rw [← utf8_length_toList] at failed
  cases ran : run State.start (Lexemes.scan 0 text.toList).list with
  | error error =>
    rw [run] at ran
    rw [ran] at failed
    cases failed
    exact points_to_of_run ran
  | ok state =>
    have folded := ran
    rw [run] at folded
    simp only [folded, bind, Except.bind] at failed
    cases faulty : (Lexemes.scan 0 text.toList).fault with
    | some found =>
      obtain ⟨place, reported⟩ := found
      simp only [faulty] at failed
      cases failed
      obtain ⟨before, first, rest, whole, tokens, visible, unread, rfl⟩ := fault_of_scan faulty
      exact .untokenised whole tokens visible unread (usable_of_run ran)
    | none =>
      simp only [faulty] at failed
      obtain ⟨empty, failed⟩ | ⟨nonempty, failed⟩ := of_ite failed
      · cases failed
        have nothing : Lexemes.scan 0 text.toList = ⟨[], none⟩ := by
          rw [← faulty, ← List.isEmpty_iff.1 empty]
        exact .nothing (blanks_of_scan nothing)
      · exact points_to_of_finish faulty (by simpa using nonempty) ran failed

/-! ## Boundaries -/

/-- A column lies between two characters of a text, or at one of its ends. -/
def Boundary (text : List Char) (column : Nat) : Prop :=
  ∃ front ∈ text.inits, utf8Length front = column

instance (text : List Char) (column : Nat) : Decidable (Boundary text column) :=
  inferInstanceAs (Decidable (∃ front ∈ text.inits, utf8Length front = column))

theorem boundary_append (front rest : List Char) : Boundary (front ++ rest) (utf8Length front) :=
  ⟨front, (List.mem_inits front _).2 (List.prefix_append front rest), rfl⟩

theorem le_of_boundary (boundary : Boundary text column) : column ≤ utf8Length text := by
  obtain ⟨front, member, rfl⟩ := boundary
  obtain ⟨rest, rfl⟩ := (List.mem_inits front _).1 member
  rw [utf8_length_append]
  exact Nat.le_add_right _ _

/-- A marker that cannot be read, in a text between quotes that leaves out a backslash before it. -/
inductive Displaced (text : List Char) : Nat → Prop where
  | behindEscape (isMark : mark = '"' ∨ mark = '\'')
      (stands : Stands text earlier before (.text content)
        (mark :: (start ++ '$' :: '{' :: rest ++ [mark])) after)
      (undone : unquoted mark start ≠ start) :
    Displaced text (utf8Length before + 1 + utf8Length (unquoted mark start))

theorem boundary_of_points_to (points : PointsTo text column fault) :
    Boundary text column ∨ Displaced text column := by
  cases points with
  | nothing blanks => exact .inl (boundary_append [] text)
  | untokenised whole tokens visible failed usable => exact .inl (whole ▸ boundary_append _ _)
  | unusable stands dead own => exact .inl (stands.whole ▸ boundary_append _ _)
  | notCompared stands alone => exact .inl (stands.whole ▸ boundary_append _ _)
  | ended tokens nonempty viable incomplete early =>
    have whole := boundary_append text []
    rw [List.append_nil] at whole
    exact .inl whole
  | @markerInWord earlier before content start rest after fault stands plain unread =>
    have whole : text = (before ++ start) ++ ('$' :: '{' :: rest ++ after) := by
      rw [stands.whole]
      simp
    exact .inl (whole ▸ boundary_append _ _)
  | @markerInText mark earlier before content start rest after fault isMark stands plain unread =>
    by_cases undone : unquoted mark start = start
    · have size : utf8Length before + 1 + utf8Length start =
          utf8Length (before ++ mark :: start) := by
        rw [utf8_length_append, utf8Length]
        rcases isMark with rfl | rfl <;> exact Nat.add_assoc ..
      have whole : text = (before ++ mark :: start) ++ ('$' :: '{' :: rest ++ mark :: after) := by
        rw [stands.whole]
        simp
      rw [undone, size]
      exact .inl (whole ▸ boundary_append _ _)
    · exact .inr (.behindEscape isMark stands undone)

theorem le_of_displaced (displaced : Displaced text column) : column ≤ utf8Length text := by
  cases displaced with
  | @behindEscape mark earlier before content start rest after isMark stands undone =>
    have shorter := length_unescape_le (fun c => c == mark || c == '\\') start
    have size : mark.utf8Size = 1 := by rcases isMark with rfl | rfl <;> rfl
    rw [stands.whole]
    simp only [unquoted, utf8_length_append, utf8Length, List.cons_append, size]
    omega

/-- The column of a fault is within the text and tells where the fault is: the token that cannot be
read or used, the end of a text that is not complete, or the marker that cannot be read. It lies on a
boundary of characters, unless it is that of a marker in a quoted text that leaves out a backslash
before it. -/
theorem columns_point (text : String) (column : Nat) (fault : ConditionFault)
    (failed : Condition.parse text = .error (.malformed column fault)) :
    column ≤ text.utf8ByteSize ∧ PointsTo text.toList column fault ∧
      (Boundary text.toList column ∨ Displaced text.toList column) := by
  have points := points_to_of_parse failed
  have stands := boundary_of_points_to points
  refine ⟨?_, points, stands⟩
  rw [← utf8_length_toList]
  exact stands.elim le_of_boundary le_of_displaced

/-- Behind a character of two octets, a parenthesis that closes nothing. -/
theorem columns_point_unexpected :
    Condition.parse "$a = 'é' )" = .error (.malformed 10 (.unexpected .rightParen)) ∧
      10 ≤ "$a = 'é' )".utf8ByteSize ∧
      PointsTo "$a = 'é' )".toList 10 (.unexpected .rightParen) ∧
      (Boundary "$a = 'é' )".toList 10 ∨ Displaced "$a = 'é' )".toList 10) := by
  have failed : Condition.parse "$a = 'é' )" = .error (.malformed 10 (.unexpected .rightParen)) := by
    decide +kernel
  exact ⟨failed, columns_point _ _ _ failed⟩

/-- A column within a character: the marker stands at the fifth octet, and the backslash before the
character is left out. -/
theorem columns_within_character :
    Condition.parse "\"\\\\é$\x7b\"" = .error (.malformed 4 (.markerInText .unclosed)) ∧
      ¬ Boundary "\"\\\\é$\x7b\"".toList 4 ∧
      "\"\\\\é$\x7b\"" = "\"\\\\é" ++ "$\x7b\"" ∧ "\"\\\\é".utf8ByteSize = 5 := by
  refine ⟨by decide +kernel, by decide +kernel, by decide +kernel, by decide +kernel⟩

end ServerIncludes.ConditionColumns
