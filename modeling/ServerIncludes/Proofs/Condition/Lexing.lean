import ServerIncludes.Condition.Token
import ServerIncludes.Proofs.Parts

/-! Texts and their tokens. Where in a text a token stands does not change what it is read as, so
tokens can be put in front of a text one by one; and a text without faults is taken apart into tokens
again, each with the characters that it is written with. -/
namespace ServerIncludes.ConditionLexing

open Unicode (isBlank)
open Parts

/-- A text is read as tokens without faults, wherever it starts. -/
def Reads (text : List Char) (tokens : List Token) : Prop :=
  ∀ column, (Lexemes.scan column text).fault = none ∧
    (Lexemes.scan column text).list.map (·.token) = tokens

theorem reads_nil : Reads [] [] := by
  intro column
  rw [Lexemes.scan]
  exact ⟨rfl, rfl⟩

/-- What is read at the front of a text, behind its blanks, comes before what is read behind it. -/
theorem scan_token (trimmed : text.dropWhile isBlank = first :: rest)
    (next : Lexeme.next first rest = .ok (token, length)) (column : Nat) :
    Lexemes.scan column text =
      (Lexemes.scan (column + utf8Length (text.takeWhile isBlank) +
          utf8Length ((first :: rest).take length)) ((first :: rest).drop length)).push
        ⟨column + utf8Length (text.takeWhile isBlank), (first :: rest).take length, token⟩ := by
  rw [Lexemes.scan]
  split
  · rename_i empty
    rw [trimmed] at empty
    cases empty
  · rename_i same
    rw [trimmed] at same
    cases same
    split
    · rename_i found
      rw [next] at found
      cases found
    · rename_i found
      rw [next] at found
      cases found
      rfl

theorem scan_fault (trimmed : text.dropWhile isBlank = first :: rest)
    (next : Lexeme.next first rest = .error fault) (column : Nat) :
    Lexemes.scan column text =
      ⟨[], some (column + utf8Length (text.takeWhile isBlank), fault)⟩ := by
  rw [Lexemes.scan]
  split
  · rename_i empty
    rw [trimmed] at empty
    cases empty
  · rename_i same
    rw [trimmed] at same
    cases same
    split
    · rename_i found
      rw [next] at found
      cases found
      rfl
    · rename_i found
      rw [next] at found
      cases found

theorem scan_empty (trimmed : text.dropWhile isBlank = []) (column : Nat) :
    Lexemes.scan column text = ⟨[], none⟩ := by
  rw [Lexemes.scan]
  split
  · rfl
  · rename_i nonempty
    rw [trimmed] at nonempty
    cases nonempty

/-- A blank in front of a text is skipped. -/
theorem scan_blank (blank : isBlank c = true) (column : Nat) (text : List Char) :
    Lexemes.scan column (c :: text) = Lexemes.scan (column + c.utf8Size) text := by
  have skipped : (c :: text).dropWhile isBlank = text.dropWhile isBlank := by simp [blank]
  have start : column + utf8Length ((c :: text).takeWhile isBlank) =
      column + c.utf8Size + utf8Length (text.takeWhile isBlank) := by
    simp [blank, utf8Length, Nat.add_assoc]
  cases trimmed : text.dropWhile isBlank with
  | nil => rw [scan_empty (skipped.trans trimmed), scan_empty trimmed]
  | cons first rest =>
    cases next : Lexeme.next first rest with
    | error fault => rw [scan_fault (skipped.trans trimmed) next, scan_fault trimmed next, start]
    | ok found =>
      obtain ⟨token, length⟩ := found
      rw [scan_token (skipped.trans trimmed) next, scan_token trimmed next, start]

/-- A token in front of a text that is read. -/
theorem reads_cons (visible : isBlank first = false)
    (next : Lexeme.next first rest = .ok (token, length))
    (later : Reads ((first :: rest).drop length) tokens) :
    Reads (first :: rest) (token :: tokens) := by
  intro column
  have trimmed : (first :: rest).dropWhile isBlank = first :: rest := by
    rw [List.dropWhile_cons, visible]
    rfl
  rw [scan_token trimmed next]
  obtain ⟨faultless, same⟩ := later _
  exact ⟨faultless, congrArg (token :: ·) same⟩

theorem reads_blank (blank : isBlank c = true) (later : Reads text tokens) :
    Reads (c :: text) tokens := by
  intro column
  rw [scan_blank blank]
  exact later _

theorem reads_left_paren (later : Reads text tokens) :
    Reads ('(' :: text) (.leftParen :: tokens) := reads_cons rfl rfl later

theorem reads_right_paren (later : Reads text tokens) :
    Reads (')' :: text) (.rightParen :: tokens) := reads_cons rfl rfl later

theorem reads_and (later : Reads text tokens) : Reads ('&' :: '&' :: text) (.and :: tokens) :=
  reads_cons rfl rfl later

theorem reads_or (later : Reads text tokens) : Reads ('|' :: '|' :: text) (.or :: tokens) :=
  reads_cons rfl rfl later

/-! ## Quoted texts -/

/-- A text with a backslash before each backslash and each of the marks that it is put between. -/
def escape (mark : Char) (content : List Char) : List Char :=
  content.flatMap fun c => if c = mark ∨ c = '\\' then ['\\', c] else [c]

/-- A text between two marks. -/
def quoted (mark : Char) (content : List Char) : List Char :=
  mark :: (escape mark content ++ [mark])

/-- Texts that a delimiter ends where it stands behind them: it does not occur in them but behind a
backslash, and no backslash is left over at the end. -/
inductive Delimited (delimiter : Char) : List Char → Prop where
  | nil : Delimited delimiter []
  | escaped (later : Delimited delimiter rest) : Delimited delimiter ('\\' :: c :: rest)
  | plain (notDelimiter : c ≠ delimiter) (notBackslash : c ≠ '\\')
      (later : Delimited delimiter rest) : Delimited delimiter (c :: rest)

theorem length_of_delimited (delimited : Delimited delimiter body) (other : delimiter ≠ '\\')
    (after : List Char) :
    Lexeme.delimitedLength delimiter (body ++ delimiter :: after) = some body.length := by
  induction delimited with
  | nil =>
    rw [List.nil_append, Lexeme.delimitedLength.eq_def]
    exact if_pos rfl
  | @escaped rest c later ih =>
    rw [List.cons_append, List.cons_append, Lexeme.delimitedLength, if_neg other.symm, if_pos rfl,
      ih]
    rfl
  | plain notDelimiter notBackslash later ih =>
    rw [List.cons_append, Lexeme.delimitedLength.eq_def]
    simp [notDelimiter, notBackslash, ih]

theorem delimited_of_length (found : Lexeme.delimitedLength delimiter text = some length) :
    ∃ body after, text = body ++ delimiter :: after ∧ body.length = length ∧
      Delimited delimiter body := by
  fun_induction Lexeme.delimitedLength delimiter text generalizing length with
  | case1 => cases found
  | case2 rest =>
    cases found
    exact ⟨[], rest, rfl, rfl, .nil⟩
  | case3 => cases found
  | case4 c rest notDelimiter ih =>
    obtain ⟨shorter, inner, rfl⟩ := Option.map_eq_some_iff.1 found
    obtain ⟨body, after, rfl, rfl, delimited⟩ := ih inner
    exact ⟨_ :: _ :: body, after, rfl, rfl, .escaped delimited⟩
  | case5 c rest notDelimiter notBackslash ih =>
    obtain ⟨shorter, inner, rfl⟩ := Option.map_eq_some_iff.1 found
    obtain ⟨body, after, rfl, rfl, delimited⟩ := ih inner
    exact ⟨c :: body, after, rfl, rfl, .plain notDelimiter notBackslash delimited⟩

theorem escape_special (special : c = mark ∨ c = '\\') (content : List Char) :
    escape mark (c :: content) = '\\' :: c :: escape mark content := by
  simp [escape, special]

theorem escape_plain (notMark : c ≠ mark) (notBackslash : c ≠ '\\') (content : List Char) :
    escape mark (c :: content) = c :: escape mark content := by
  simp [escape, notMark, notBackslash]

/-- No mark of an escaped text is taken for the one that ends it. -/
theorem delimited_escape (mark : Char) (content : List Char) :
    Delimited mark (escape mark content) := by
  induction content with
  | nil => exact .nil
  | cons c content ih =>
    by_cases special : c = mark ∨ c = '\\'
    · rw [escape_special special]
      exact .escaped ih
    · obtain ⟨notMark, notBackslash⟩ := not_or.1 special
      rw [escape_plain notMark notBackslash]
      exact .plain notMark notBackslash ih

theorem unescape_escape (mark : Char) (content : List Char) :
    Lexeme.unescape (fun c => c == mark || c == '\\') (escape mark content) = content := by
  induction content with
  | nil => rfl
  | cons c content ih =>
    by_cases special : c = mark ∨ c = '\\'
    · rw [escape_special special]
      simp [Lexeme.unescape, special, ih]
    · obtain ⟨notMark, notBackslash⟩ := not_or.1 special
      rw [escape_plain notMark notBackslash, Lexeme.unescape.eq_def]
      simp [notBackslash, ih]

/-- A text in quotes, of either kind. -/
theorem reads_quoted (isMark : mark = '"' ∨ mark = '\'') (content : List Char)
    (later : Reads text tokens) :
    Reads (quoted mark content ++ text) (.text (String.ofList content) :: tokens) := by
  have next : Lexeme.next mark (escape mark content ++ mark :: text) =
      .ok (.text (String.ofList content), (escape mark content).length + 2) := by
    have other : mark ≠ '\\' := by
      rcases isMark with rfl | rfl <;> decide
    have notSymbol : Lexeme.symbol? (mark :: (escape mark content ++ mark :: text)) = none := by
      rcases isMark with rfl | rfl <;> rfl
    have notSingle : ¬ (mark = '&' ∨ mark = '|') := by
      rcases isMark with rfl | rfl <;> decide
    have length := length_of_delimited (delimited_escape mark content) other text
    simp [Lexeme.next, notSymbol, Lexeme.read, notSingle, isMark, length, unescape_escape]
  have whole : quoted mark content ++ text = mark :: (escape mark content ++ mark :: text) := by
    simp [quoted]
  rw [whole]
  refine reads_cons ?_ next ?_
  · rcases isMark with rfl | rfl <;> rfl
  · have left : (mark :: (escape mark content ++ mark :: text)).drop
        ((escape mark content).length + 2) = text := by simp
    rw [left]
    exact later

/-! ## Variables -/

/-- A variable whose name is in braces. -/
theorem reads_reference (nonempty : name ≠ []) (closes : '}' ∉ name) (later : Reads text tokens) :
    Reads ('$' :: '{' :: (name ++ '}' :: text)) (.reference (String.ofList name) :: tokens) := by
  have taken : (name ++ '}' :: text).takeWhile (· != '}') = name := by
    rw [List.takeWhile_append_of_pos]
    · simp
    · intro c member
      have other : c ≠ '}' := fun same => closes (same ▸ member)
      simpa using other
  have next : Lexeme.next '$' ('{' :: (name ++ '}' :: text)) =
      .ok (.reference (String.ofList name), name.length + 3) := by
    simp [Lexeme.next, Lexeme.symbol?, Lexeme.read, taken, nonempty]
  refine reads_cons rfl next ?_
  have left : ('$' :: '{' :: (name ++ '}' :: text)).drop (name.length + 3) = text := by
    have split : '$' :: '{' :: (name ++ '}' :: text) = ('$' :: '{' :: (name ++ ['}'])) ++ text := by
      simp
    rw [split, List.drop_left' (by simp)]
  rw [left]
  exact later

/-! ## What can stand at the front of a text -/

/-- A token, the characters that it is written with and the text behind it. -/
inductive Front : Token → List Char → List Char → Prop where
  | symbol (found : Lexeme.symbol? (source ++ after) = some (token, source.length)) :
    Front token source after
  | text (isMark : mark = '"' ∨ mark = '\'') (delimited : Delimited mark body) :
    Front (.text (String.ofList (Lexeme.unescape (fun c => c == mark || c == '\\') body)))
      (mark :: (body ++ [mark])) after
  | pattern (delimited : Delimited '/' body) :
    Front (.pattern (String.ofList (Lexeme.unescape (· == '/') body))) ('/' :: (body ++ ['/'])) after
  | braced (nonempty : name ≠ []) (closes : '}' ∉ name) :
    Front (.reference (String.ofList name)) ('$' :: '{' :: (name ++ ['}'])) after
  | bare (nonempty : name ≠ []) (named : ∀ c ∈ name, Template.isNameChar c = true)
      (ends : ∀ c ∈ after.head?, Template.isNameChar c = false) :
    Front (.reference (String.ofList name)) ('$' :: name) after
  | word (nonempty : source ≠ []) (inside : ∀ c ∈ source, Lexeme.isWordChar c = true)
      (ends : ∀ c ∈ after.head?, Lexeme.isWordChar c = false) :
    Front (.word (String.ofList source)) source after

theorem not_reference_of_symbol (found : Lexeme.symbol? text = some (token, length))
    (name : String) : token ≠ .reference name := by
  rintro rfl
  unfold Lexeme.symbol? at found
  split at found <;> simp at found

theorem front_of_symbol (found : Lexeme.symbol? text = some (token, length)) :
    ∃ source after, text = source ++ after ∧ source.length = length ∧ Front token source after := by
  have within : length ≤ text.length := by
    unfold Lexeme.symbol? at found
    split at found <;> simp at found <;> simp <;> omega
  have whole := List.take_append_drop length text
  have taken : (text.take length).length = length := List.length_take_of_le within
  refine ⟨text.take length, text.drop length, whole.symm, taken, .symbol ?_⟩
  rw [whole, taken, found]

/-- What starts neither a blank nor an operator nor a quoted text may be in a word. -/
theorem word_char_of_not_symbol (visible : isBlank first = false)
    (notSymbol : Lexeme.symbol? (first :: rest) = none) (notSingle : ¬ (first = '&' ∨ first = '|'))
    (notMark : ¬ (first = '"' ∨ first = '\'')) : Lexeme.isWordChar first = true := by
  have apart : ∀ c ∈ ['(', ')', '!', '=', '<', '>'], first ≠ c := by
    rintro c member rfl
    unfold Lexeme.symbol? at notSymbol
    split at notSymbol <;> simp_all
  obtain ⟨notAnd, notOr⟩ := not_or.1 notSingle
  obtain ⟨notDouble, notQuote⟩ := not_or.1 notMark
  simp only [List.forall_mem_cons] at apart
  simp [Lexeme.isWordChar, visible, notAnd, notOr, notDouble, notQuote, apart]

theorem front_of_read (visible : isBlank first = false)
    (notSymbol : Lexeme.symbol? (first :: rest) = none)
    (found : Lexeme.read first rest = .ok (token, length)) :
    ∃ source after, first :: rest = source ++ after ∧ source.length = length ∧
      Front token source after := by
  unfold Lexeme.read at found
  split at found
  · cases found
  rename_i notSingle
  split at found
  · rename_i isMark
    split at found
    · cases found
    · rename_i length ends
      cases found
      obtain ⟨body, after, rfl, rfl, delimited⟩ := delimited_of_length ends
      refine ⟨first :: (body ++ [first]), after, by simp, by simp, ?_⟩
      rw [List.take_left]
      exact .text isMark delimited
  rename_i notMark
  split at found
  · rename_i isSlash
    subst isSlash
    split at found
    · cases found
    · rename_i length ends
      cases found
      obtain ⟨body, after, rfl, rfl, delimited⟩ := delimited_of_length ends
      refine ⟨'/' :: (body ++ ['/']), after, by simp, by simp, ?_⟩
      rw [List.take_left]
      exact .pattern delimited
  rename_i notSlash
  split at found
  · rename_i isDollar
    subst isDollar
    split at found
    · rename_i inner
      split at found
      · rename_i closes
        simp only at found
        split at found
        · cases found
        · rename_i nonempty
          cases found
          cases split : inner.dropWhile (· != '}') with
          | nil => simpa using List.dropWhile_eq_nil_iff.1 split '}' (by simpa using closes)
          | cons closer after =>
            refine ⟨'$' :: '{' :: (inner.takeWhile (· != '}') ++ ['}']), after, ?_, by simp, ?_⟩
            · simpa using split_at_stop split
            · exact .braced (mt List.isEmpty_iff.2 nonempty) (not_mem_takeWhile '}' inner)
      · cases found
    · simp only at found
      split at found
      · cases found
      · rename_i nonempty
        cases found
        refine ⟨'$' :: rest.takeWhile Template.isNameChar, rest.dropWhile Template.isNameChar,
          by simp, rfl, .bare (mt List.isEmpty_iff.2 nonempty) ?_ (head_dropWhile _ rest)⟩
        exact fun c member => List.mem_takeWhile_imp member
  · cases found
    have isWord := word_char_of_not_symbol visible notSymbol notSingle notMark
    refine ⟨first :: rest.takeWhile Lexeme.isWordChar, rest.dropWhile Lexeme.isWordChar, by simp, rfl,
      .word (List.cons_ne_nil _ _) ?_ (head_dropWhile _ rest)⟩
    intro c member
    rcases List.mem_cons.1 member with rfl | member
    · exact isWord
    · exact List.mem_takeWhile_imp member

/-- What is read at the front of a text. -/
theorem front_of_next (visible : isBlank first = false)
    (found : Lexeme.next first rest = .ok (token, length)) :
    ∃ source after, first :: rest = source ++ after ∧ source.length = length ∧
      Front token source after := by
  unfold Lexeme.next at found
  split at found
  · rename_i symbol isSymbol
    cases found
    exact front_of_symbol isSymbol
  · rename_i notSymbol
    exact front_of_read visible notSymbol found

/-- A text that is tokens and blanks between them. -/
inductive Lexed : List Char → List Token → Prop where
  | done (blanks : ∀ c ∈ text, isBlank c = true) : Lexed text []
  | token (blanks : ∀ c ∈ gap, isBlank c = true) (front : Front token source after)
      (later : Lexed after tokens) : Lexed (gap ++ (source ++ after)) (token :: tokens)

theorem lexed_of_scan (faultless : (Lexemes.scan column text).fault = none) :
    Lexed text ((Lexemes.scan column text).list.map (·.token)) := by
  induction size : text.length using Nat.strongRecOn generalizing text column with
  | ind size ih =>
    have blanks : ∀ c ∈ text.takeWhile isBlank, isBlank c = true :=
      fun c member => List.mem_takeWhile_imp member
    cases trimmed : text.dropWhile isBlank with
    | nil =>
      rw [scan_empty trimmed]
      exact .done (List.dropWhile_eq_nil_iff.1 trimmed)
    | cons first rest =>
      cases next : Lexeme.next first rest with
      | error fault =>
        rw [scan_fault trimmed next] at faultless
        cases faultless
      | ok found =>
        obtain ⟨token, length⟩ := found
        have visible : isBlank first = false := by
          simpa [trimmed] using head_dropWhile isBlank text
        obtain ⟨source, after, whole, rfl, front⟩ := front_of_next visible next
        have split : text = text.takeWhile isBlank ++ (source ++ after) := by
          rw [← whole, ← trimmed, List.takeWhile_append_dropWhile]
        have shorter : after.length < text.length := by
          have positive := Lexeme.next_pos next
          have lengths := congrArg List.length split
          simp only [List.length_append] at lengths
          omega
        rw [scan_token trimmed next, whole, List.drop_left] at faultless ⊢
        have lexed := Lexed.token blanks front (ih _ (size ▸ shorter) faultless rfl)
        rwa [← split] at lexed

end ServerIncludes.ConditionLexing
