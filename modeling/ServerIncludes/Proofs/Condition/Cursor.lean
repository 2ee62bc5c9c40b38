import ServerIncludes.Proofs.Condition.Columns

/-! Tokens can be read with a cursor as well, which counts octets and is moved on by what each kind of
token takes of them. The cursor always stands between two characters, so no call stops for want of a
character there; the calls come to an end, with the same tokens as are read from the characters; and
nothing but blanks is left between the octets of one token and those of the next. -/
namespace ServerIncludes.TokenCursor

open ConditionColumns (Boundary blanks_of_scan boundary_append not_word_of_symbol scan_lexeme)
open ConditionLexing
open MarkerFaults (utf8_length_append utf8_length_braced)
open Parts
open Template (isNameChar)
open Unicode (isBlank)

/-! ## Octets -/

/-- Cuts a text behind some octets, unless that is within a character or beyond the end. -/
def cut? : List Char → Nat → Option (List Char × List Char)
  | text, 0 => some ([], text)
  | [], _ + 1 => none
  | c :: rest, octets + 1 =>
    if c.utf8Size ≤ octets + 1 then
      (cut? rest (octets + 1 - c.utf8Size)).map fun (front, back) => (c :: front, back)
    else none

/-- The octets before the first character of a kind. -/
def find? (kind : Char → Bool) : List Char → Option Nat
  | [] => none
  | c :: rest => if kind c then some 0 else (find? kind rest).map (· + c.utf8Size)

/-- Reads from an octet on what stands before a delimiter that no backslash protects, and leaves out
the backslashes that `drops` accepts the next character of. Gives the octet of the delimiter too. -/
def readDelimited (delimiter : Char) (drops : Char → Bool) (octet : Nat) :
    List Char → Option (List Char × Nat)
  | [] => none
  | c :: rest =>
    if c = delimiter then some ([], octet)
    else if c = '\\' then
      match rest with
      | [] => none
      | next :: rest =>
        (readDelimited delimiter drops (octet + c.utf8Size + next.utf8Size) rest).map
          fun (content, stop) => (if drops next then next :: content else c :: next :: content, stop)
    else
      (readDelimited delimiter drops (octet + c.utf8Size) rest).map fun (content, stop) =>
        (c :: content, stop)

/-- The operators and parentheses, those before others that they begin with. -/
def symbols : List (List Char × Token) :=
  [(['=', '='], .comparison .equal), (['!', '='], .comparison .notEqual), (['=', '~'], .search true),
    (['!', '~'], .search false), (['<', '='], .comparison .lessEqual),
    (['>', '='], .comparison .greaterEqual), (['&', '&'], .and), (['|', '|'], .or),
    (['='], .comparison .equal), (['<'], .comparison .less), (['>'], .comparison .greater),
    (['('], .leftParen), ([')'], .rightParen), (['!'], .not)]

/-- The variable behind a dollar, and the octets that it takes with the dollar. -/
def readReference? : List Char → Option (Except ConditionFault (Token × Nat))
  | '{' :: inner =>
    match find? (· == '}') inner with
    | none => some (.error (.marker .unclosed))
    | some close => (cut? inner close).map fun (name, _) =>
      if name.isEmpty then .error (.marker .empty)
      else .ok (.reference (String.ofList name), close + 3)
  | rest =>
    let length := (find? (!isNameChar ·) rest).getD (utf8Length rest)
    if length = 0 then some (.error .noVariableName)
    else (cut? rest length).map fun (name, _) => .ok (.reference (String.ofList name), length + 1)

/-- The token at the front of a text that starts with no blank, and the octets that it takes. -/
def read? (first : Char) (rest : List Char) : Option (Except ConditionFault (Token × Nat)) :=
  match symbols.find? (·.1.isPrefixOf (first :: rest)) with
  | some (spelling, token) => some (.ok (token, utf8Length spelling))
  | none =>
    if first = '&' ∨ first = '|' then some (.error (.undoubled first))
    else if first = '"' ∨ first = '\'' then
      match readDelimited first (fun c => c == first || c == '\\') 1 rest with
      | none => some (.error .unterminatedText)
      | some (content, stop) => some (.ok (.text (String.ofList content), stop + 1))
    else if first = '/' then
      match readDelimited '/' (· == '/') 1 rest with
      | none => some (.error .unterminatedPattern)
      | some (content, stop) => some (.ok (.pattern (String.ofList content), stop + 1))
    else if first = '$' then readReference? rest
    else
      let length := (find? (!Lexeme.isWordChar ·) (first :: rest)).getD (utf8Length (first :: rest))
      (cut? (first :: rest) length).map fun (word, _) => .ok (.word (String.ofList word), length)

theorem cut_front (front back : List Char) :
    cut? (front ++ back) (utf8Length front) = some (front, back) := by
  induction front with
  | nil => cases back <;> rfl
  | cons c front ih =>
    have positive := c.utf8Size_pos
    obtain ⟨octets, size⟩ : ∃ octets, c.utf8Size + utf8Length front = octets + 1 :=
      Nat.exists_eq_add_one.2 (by omega)
    have left : octets + 1 - c.utf8Size = utf8Length front := by omega
    rw [utf8Length, size, List.cons_append, cut?, if_pos (by omega), left, ih]
    rfl

theorem find_none (outside : ∀ c ∈ text, kind c = false) : find? kind text = none := by
  induction text with
  | nil => rfl
  | cons c rest ih =>
    obtain ⟨apart, outside⟩ := List.forall_mem_cons.1 outside
    simp [find?, apart, ih outside]

theorem find_front (outside : ∀ c ∈ front, kind c = false) (stops : kind stop = true)
    (after : List Char) : find? kind (front ++ stop :: after) = some (utf8Length front) := by
  induction front with
  | nil => simp [find?, stops, utf8Length]
  | cons c front ih =>
    obtain ⟨apart, outside⟩ := List.forall_mem_cons.1 outside
    simp [find?, apart, ih outside, utf8Length, Nat.add_comm]

/-- What stands before the first character of another kind, or all of a text without one. -/
theorem find_takeWhile (inside : Char → Bool) (text : List Char) :
    (find? (!inside ·) text).getD (utf8Length text) = utf8Length (text.takeWhile inside) := by
  have outside : ∀ c ∈ text.takeWhile inside, (!inside c) = false := fun c member => by
    simp [List.mem_takeWhile_imp member]
  have whole := List.takeWhile_append_dropWhile (p := inside) (l := text)
  cases left : text.dropWhile inside with
  | nil =>
    rw [left, List.append_nil] at whole
    rw [whole] at outside ⊢
    rw [find_none outside]
    rfl
  | cons stop after =>
    have stops : inside stop = false := by simpa [left] using head_dropWhile inside text
    rw [left] at whole
    have found := find_front outside (by rw [stops]; rfl) after
    rw [whole] at found
    rw [found]
    rfl

theorem cut_takeWhile (inside : Char → Bool) (text : List Char) :
    cut? text (utf8Length (text.takeWhile inside)) =
      some (text.takeWhile inside, text.dropWhile inside) := by
  have front := cut_front (text.takeWhile inside) (text.dropWhile inside)
  rwa [List.takeWhile_append_dropWhile] at front

theorem read_delimited_eq (delimiter : Char) (drops : Char → Bool) (octet : Nat)
    (text : List Char) :
    readDelimited delimiter drops octet text =
      (Lexeme.delimitedLength delimiter text).map fun length =>
        (Lexeme.unescape drops (text.take length), octet + utf8Length (text.take length)) := by
  -- an escape is two characters of the length, so the induction is on what the reader goes through
  fun_induction readDelimited delimiter drops octet text with
  | case1 => rfl
  | case2 octet rest =>
    rw [Lexeme.delimitedLength.eq_def]
    simp [Lexeme.unescape, utf8Length]
  | case3 octet notDelimiter =>
    rw [Lexeme.delimitedLength.eq_def]
    simp [notDelimiter]
  | case4 octet next rest notDelimiter ih =>
    have longer : Lexeme.delimitedLength delimiter ('\\' :: next :: rest) =
        (Lexeme.delimitedLength delimiter rest).map (· + 2) := by
      rw [Lexeme.delimitedLength, if_neg notDelimiter, if_pos rfl]
    rw [ih, longer, Option.map_map, Option.map_map]
    refine congrArg (Option.map · _) (funext fun length => ?_)
    by_cases dropped : drops next = true <;>
      simp [Lexeme.unescape, utf8Length, dropped, Nat.add_assoc]
  | case5 octet c rest notDelimiter notBackslash ih =>
    have longer : Lexeme.delimitedLength delimiter (c :: rest) =
        (Lexeme.delimitedLength delimiter rest).map (· + 1) := by
      rw [Lexeme.delimitedLength.eq_def]
      simp [notDelimiter, notBackslash]
    have kept : ∀ body, Lexeme.unescape drops (c :: body) = c :: Lexeme.unescape drops body := by
      intro body
      rw [Lexeme.unescape.eq_def]
      simp [notBackslash]
    rw [ih, longer, Option.map_map, Option.map_map]
    refine congrArg (Option.map · _) (funext fun length => ?_)
    simp [kept, utf8Length, Nat.add_assoc]

theorem not_prefix {c : Char} (apart : ∀ rest, text = c :: rest → False) :
    [c].isPrefixOf text = false := by
  cases text with
  | nil => rfl
  | cons first rest =>
    have other : c ≠ first := by
      rintro rfl
      exact apart rest rfl
    simpa [List.isPrefixOf] using other

theorem symbol_eq (text : List Char) :
    Lexeme.symbol? text =
      (symbols.find? (·.1.isPrefixOf text)).map fun symbol => (symbol.2, symbol.1.length) := by
  unfold Lexeme.symbol?
  split
  case h_9 equal search => simp [symbols, not_prefix equal, not_prefix search]
  case h_10 equal => simp [symbols, not_prefix equal]
  case h_11 equal => simp [symbols, not_prefix equal]
  case h_14 equal search => simp [symbols, not_prefix equal, not_prefix search]
  case h_15 =>
    -- a text that begins with none of the spellings
    symm
    rw [Option.map_eq_none_iff, List.find?_eq_none]
    intro symbol member starts
    obtain ⟨after, rfl⟩ := List.isPrefixOf_iff_prefix.1 starts
    simp only [symbols, List.mem_cons, List.not_mem_nil, or_false] at member
    rcases member with rfl | rfl | rfl | rfl | rfl | rfl | rfl | rfl | rfl | rfl | rfl | rfl | rfl |
      rfl <;> solve_by_elim
  all_goals rfl

/-- A token that was found, with its octets counted in place of its characters. -/
def inOctets (text : List Char) (found : Token × Nat) : Token × Nat :=
  (found.1, utf8Length (text.take found.2))

theorem octets_of_delimited (single : delimiter.utf8Size = 1)
    (found : Lexeme.delimitedLength delimiter rest = some length) :
    utf8Length ((delimiter :: rest).take (length + 2)) = 1 + utf8Length (rest.take length) + 1 := by
  obtain ⟨body, after, rfl, rfl, -⟩ := delimited_of_length found
  have whole : (delimiter :: (body ++ delimiter :: after)).take (body.length + 2) =
      delimiter :: (body ++ [delimiter]) := by
    simp [List.take_append]
  rw [whole, List.take_left, utf8Length, utf8_length_append, utf8Length, utf8Length, single]
  omega

theorem utf8_length_eq_zero (text : List Char) : utf8Length text = 0 ↔ text = [] := by
  cases text with
  | nil => exact iff_of_true rfl rfl
  | cons c rest =>
    have positive := c.utf8Size_pos
    rw [utf8Length]
    exact iff_of_false (by omega) (List.cons_ne_nil c rest)

theorem read_reference_eq (rest : List Char) :
    readReference? rest = some ((Lexeme.read '$' rest).map (inOctets ('$' :: rest))) := by
  have others : ¬ ('$' = '&' ∨ '$' = '|') ∧ ¬ ('$' = '"' ∨ '$' = '\'') ∧ '$' ≠ '/' := by decide
  unfold readReference? Lexeme.read
  rw [if_neg others.1, if_neg others.2.1, if_neg others.2.2, if_pos rfl]
  split
  · rename_i inner
    by_cases closed : '}' ∈ inner
    · simp only [List.contains_iff_mem.2 closed, if_true]
      obtain ⟨name, after, rfl, closes⟩ := List.eq_append_cons_of_mem closed
      have apart : ∀ c ∈ name, (c == '}') = false := fun c member => by
        simpa using ne_of_mem_of_not_mem member closes
      have found := find_front apart (beq_self_eq_true '}') after
      have taken : (name ++ '}' :: after).takeWhile (· != '}') = name :=
        takeWhile_front (fun c member => by simp [bne, apart c member]) (by simp)
      have source : ('$' :: '{' :: (name ++ '}' :: after)).take (name.length + 3) =
          '$' :: '{' :: (name ++ ['}']) := by simp [List.take_append]
      simp only [found, cut_front, taken, Option.map_some]
      split
      · rfl
      · simp only [Except.map, inOctets, source, utf8_length_braced, Nat.add_comm 3]
    · have found : find? (· == '}') inner = none :=
        find_none fun c member => by simpa using ne_of_mem_of_not_mem member closed
      simp [found, closed, Except.map]
  · simp only [find_takeWhile, cut_takeWhile, utf8_length_eq_zero, List.isEmpty_iff]
    split
    · rfl
    · have source := List.prefix_iff_eq_take.1 (List.takeWhile_prefix isNameChar (l := rest))
      simp only [Option.map_some, Except.map, inOctets, List.take_succ_cons, ← source, utf8Length]
      rw [Nat.add_comm]
      rfl

/-- The same token is read both ways, and no text is cut within a character. -/
theorem read_eq (visible : isBlank first = false) (rest : List Char) :
    read? first rest = some ((Lexeme.next first rest).map (inOctets (first :: rest))) := by
  unfold read? Lexeme.next
  cases found : symbols.find? (·.1.isPrefixOf (first :: rest)) with
  | some symbol =>
    have starts : symbol.1.isPrefixOf (first :: rest) = true := by
      simpa using List.find?_some found
    have taken := List.prefix_iff_eq_take.1 (List.isPrefixOf_iff_prefix.1 starts)
    simp only [symbol_eq, found, Option.map_some, Except.map, inOctets, ← taken]
  | none =>
    have notSymbol : Lexeme.symbol? (first :: rest) = none := by rw [symbol_eq, found]; rfl
    simp only [notSymbol]
    by_cases dollar : first = '$'
    · subst dollar
      exact read_reference_eq rest
    unfold Lexeme.read
    -- the tests that both readers make, in their order
    by_cases single : first = '&' ∨ first = '|'
    · rw [if_pos single, if_pos single]
      rfl
    rw [if_neg single, if_neg single]
    by_cases mark : first = '"' ∨ first = '\''
    · have size : first.utf8Size = 1 := by rcases mark with rfl | rfl <;> rfl
      rw [if_pos mark, if_pos mark, read_delimited_eq]
      cases ends : Lexeme.delimitedLength first rest with
      | none => rfl
      | some length =>
        simp only [Option.map_some, Except.map, inOctets, octets_of_delimited size ends]
    rw [if_neg mark, if_neg mark]
    by_cases slash : first = '/'
    · subst slash
      rw [if_pos rfl, if_pos rfl, read_delimited_eq]
      cases ends : Lexeme.delimitedLength '/' rest with
      | none => rfl
      | some length =>
        simp only [Option.map_some, Except.map, inOctets, octets_of_delimited rfl ends]
    rw [if_neg slash, if_neg slash, if_neg dollar, if_neg dollar]
    have isWord := word_char_of_not_symbol visible notSymbol single mark
    have whole := List.takeWhile_prefix Lexeme.isWordChar (l := first :: rest)
    have cut := cut_takeWhile Lexeme.isWordChar (first :: rest)
    rw [List.takeWhile_cons_of_pos isWord] at whole cut
    simp only [find_takeWhile, List.takeWhile_cons_of_pos isWord, cut, Option.map_some, Except.map,
      inOctets, ← List.prefix_iff_eq_take.1 whole]

/-! ## Calls -/

/-- What a call for the next token gives. -/
inductive Reply where
  | token (start : Nat) (token : Token)
  | ended
  | fault (start : Nat) (fault : ConditionFault)
  deriving DecidableEq, Repr

/-- A call for the next token with a cursor, and the cursor that it leaves. Nothing is given only if
a cursor lies within a character or beyond the end. -/
def call? (text : List Char) (cursor : Nat) : Option (Reply × Nat) :=
  (cut? text cursor).bind fun (_, rest) =>
    let start := cursor + (utf8Length rest - utf8Length (rest.dropWhile isBlank))
    (cut? text start).bind fun (_, rest) =>
      match rest with
      | [] => some (.ended, start)
      | first :: after => (read? first after).map fun
        | .error fault => (.fault start fault, start)
        | .ok (token, octets) => (.token start token, start + octets)

/-- A token and the octets of a text that it takes. -/
structure Slice where
  start : Nat
  stop : Nat
  token : Token
  deriving DecidableEq, Repr

/-- Calls one after another, each with the cursor that the one before left, up to the first that
gives no token. -/
inductive Calls (text : List Char) : Nat → List Slice → Option (Nat × ConditionFault) → Prop where
  | ended (called : call? text cursor = some (.ended, stop)) : Calls text cursor [] none
  | fault (called : call? text cursor = some (.fault start fault, stop)) :
    Calls text cursor [] (some (start, fault))
  | token (called : call? text cursor = some (.token start token, stop))
      (later : Calls text stop slices ending) :
    Calls text cursor (⟨start, stop, token⟩ :: slices) ending

/-- The tokens of a text with the octets that they take. -/
def slicesOf (lexemes : Lexemes) : List Slice :=
  lexemes.list.map fun lexeme =>
    ⟨lexeme.column, lexeme.column + utf8Length lexeme.source, lexeme.token⟩

/-- The call that gives the first of some tokens, or what a text without tokens ends with. -/
def firstCall (stop : Nat) : Lexemes → Reply × Nat
  | ⟨lexeme :: _, _⟩ =>
    (.token lexeme.column lexeme.token, lexeme.column + utf8Length lexeme.source)
  | ⟨[], some (start, fault)⟩ => (.fault start fault, start)
  | ⟨[], none⟩ => (.ended, stop)

theorem call_of_scan (front rest : List Char) :
    call? (front ++ rest) (utf8Length front) =
      some (firstCall (utf8Length (front ++ rest)) (Lexemes.scan (utf8Length front) rest)) := by
  have whole := List.takeWhile_append_dropWhile (p := isBlank) (l := rest)
  have skipped : utf8Length rest - utf8Length (rest.dropWhile isBlank) =
      utf8Length (rest.takeWhile isBlank) := by
    have lengths := congrArg utf8Length whole
    rw [utf8_length_append] at lengths
    omega
  -- where the blanks end a text can be cut again
  have cut := cut_front (front ++ rest.takeWhile isBlank) (rest.dropWhile isBlank)
  rw [List.append_assoc, whole, utf8_length_append] at cut
  simp only [call?, cut_front, Option.bind_some, skipped, cut]
  cases trimmed : rest.dropWhile isBlank with
  | nil =>
    rw [trimmed, List.append_nil] at whole
    rw [scan_empty trimmed, whole, firstCall, utf8_length_append]
  | cons first after =>
    have visible : isBlank first = false := by simpa [trimmed] using head_dropWhile isBlank rest
    simp only [read_eq visible, Option.map_some]
    cases next : Lexeme.next first after with
    | error fault =>
      rw [scan_fault trimmed next]
      rfl
    | ok found =>
      rw [scan_token trimmed next]
      rfl

/-- Calls give the tokens that are read from the characters, and end with the same fault. -/
theorem calls_of_scan (scanned : Lexemes.scan (utf8Length front) rest = lexemes) :
    Calls (front ++ rest) (utf8Length front) (slicesOf lexemes) lexemes.fault := by
  obtain ⟨list, fault⟩ := lexemes
  induction list generalizing front rest with
  | nil =>
    have called := call_of_scan front rest
    rw [scanned] at called
    cases fault with
    | none => exact .ended called
    | some found => exact .fault called
  | cons lexeme later ih =>
    obtain ⟨gap, after, rfl, -, -, start, left⟩ := scan_lexeme (congrArg Lexemes.list scanned)
    have called := call_of_scan front (gap ++ (lexeme.source ++ after))
    have stop : lexeme.column + utf8Length lexeme.source =
        utf8Length (front ++ (gap ++ lexeme.source)) := by
      rw [start, utf8_length_append, utf8_length_append, Nat.add_assoc]
    rw [scanned] at called left
    rw [stop] at left
    have others := ih left
    rw [List.append_assoc, List.append_assoc, ← stop] at others
    exact .token called others

/-! ## What calls leave out -/

/-- Only blanks stand between two octets of a text, each of them between two characters. -/
def BlankBetween (text : List Char) (start stop : Nat) : Prop :=
  ∃ before gap after, text = before ++ (gap ++ after) ∧ (∀ c ∈ gap, isBlank c = true) ∧
    utf8Length before = start ∧ utf8Length before + utf8Length gap = stop

/-- The octets of a token are those of the characters that it is written with. -/
def Written (text : List Char) (slice : Slice) : Prop :=
  ∃ before source after, text = before ++ (source ++ after) ∧ Front slice.token source after ∧
    utf8Length before = slice.start ∧ utf8Length before + utf8Length source = slice.stop

theorem length_of_front (front : Front token source after) : 0 < utf8Length source := by
  refine Nat.pos_of_ne_zero (mt (utf8_length_eq_zero source).1 ?_)
  rintro rfl
  cases front with
  | symbol found => exact Nat.lt_irrefl 0 (Lexeme.symbol?_pos found)
  | word nonempty inside ends => exact nonempty rfl

theorem word_of_written (written : Written text slice) : slice.token ≠ .word "" := by
  obtain ⟨-, source, after, -, front, -, -⟩ := written
  generalize slice.token = token at front
  cases front with
  | symbol found => exact not_word_of_symbol found ""
  | word nonempty inside ends => simpa using nonempty
  | text | pattern | braced | bare => nofun

theorem bounds_of_written (written : Written text slice) :
    slice.start < slice.stop ∧ Boundary text slice.start ∧ Boundary text slice.stop := by
  obtain ⟨before, source, after, rfl, front, start, stop⟩ := written
  have longer := length_of_front front
  refine ⟨by omega, start ▸ boundary_append _ _, ?_⟩
  rw [← stop, ← utf8_length_append, ← List.append_assoc]
  exact boundary_append _ _

/-- What a call may give and where it may leave the cursor: nothing but blanks is passed over. -/
inductive Answers (text : List Char) (cursor : Nat) : Reply → Nat → Prop where
  | ended (blanks : BlankBetween text cursor (utf8Length text)) :
    Answers text cursor .ended (utf8Length text)
  | fault (blanks : BlankBetween text cursor start) : Answers text cursor (.fault start fault) start
  | token (blanks : BlankBetween text cursor start) (written : Written text ⟨start, stop, token⟩) :
    Answers text cursor (.token start token) stop

theorem blanks_of_fault (scanned : Lexemes.scan column text = ⟨[], some (start, fault)⟩) :
    ∃ gap rest, text = gap ++ rest ∧ (∀ c ∈ gap, isBlank c = true) ∧
      start = column + utf8Length gap := by
  cases trimmed : text.dropWhile isBlank with
  | nil =>
    rw [scan_empty trimmed] at scanned
    cases scanned
  | cons first rest =>
    cases next : Lexeme.next first rest with
    | ok found =>
      rw [scan_token trimmed next] at scanned
      cases scanned
    | error fault =>
      rw [scan_fault trimmed next] at scanned
      cases scanned
      refine ⟨text.takeWhile isBlank, first :: rest, ?_,
        fun c member => List.mem_takeWhile_imp member, rfl⟩
      rw [← trimmed, List.takeWhile_append_dropWhile]

theorem answers_of_call (called : call? text cursor = some (reply, stop))
    (boundary : Boundary text cursor) : Answers text cursor reply stop := by
  obtain ⟨front, member, rfl⟩ := boundary
  obtain ⟨rest, rfl⟩ := (List.mem_inits front _).1 member
  rw [call_of_scan] at called
  generalize scanned : Lexemes.scan (utf8Length front) rest = lexemes at called
  obtain ⟨list, ending⟩ := lexemes
  cases list with
  | cons lexeme later =>
    cases called
    obtain ⟨gap, after, rfl, blanks, written, start, -⟩ :=
      scan_lexeme (congrArg Lexemes.list scanned)
    have before : utf8Length (front ++ gap) = lexeme.column := by rw [utf8_length_append, start]
    exact .token ⟨front, gap, _, rfl, blanks, rfl, start.symm⟩
      ⟨front ++ gap, lexeme.source, after, by simp, written, before, congrArg (· + _) before⟩
  | nil =>
    cases ending with
    | none =>
      cases called
      exact .ended ⟨front, rest, [], by simp, blanks_of_scan scanned, rfl,
        (utf8_length_append front rest).symm⟩
    | some found =>
      cases called
      obtain ⟨gap, after, rfl, blanks, start⟩ := blanks_of_fault scanned
      exact .fault ⟨front, gap, after, rfl, blanks, rfl, start.symm⟩

/-- The octets before the first token, between tokens that follow one another and behind the last. -/
def gaps (stop : Nat) : Nat → List Slice → List (Nat × Nat)
  | cursor, [] => [(cursor, stop)]
  | cursor, slice :: slices => (cursor, slice.start) :: gaps stop slice.stop slices

/-- Where the last call leaves the cursor: at the end of the text, or at what is no token. -/
def stopOf (text : List Char) (ending : Option (Nat × ConditionFault)) : Nat :=
  (ending.map (·.1)).getD (utf8Length text)

/-- Tokens from a cursor on that cover a text but for blanks. -/
structure Covers (text : List Char) (cursor : Nat) (slices : List Slice)
    (ending : Option (Nat × ConditionFault)) : Prop where
  within : ∀ slice ∈ slices, slice.start < slice.stop ∧ Boundary text slice.start ∧
    Boundary text slice.stop
  behind : ∀ slice ∈ slices, cursor ≤ slice.start
  ordered : slices.Pairwise fun earlier later => earlier.stop ≤ later.start
  between : ∀ gap ∈ gaps (stopOf text ending) cursor slices, BlankBetween text gap.1 gap.2
  named : ∀ slice ∈ slices, slice.token ≠ .word ""

theorem le_of_blank_between (blanks : BlankBetween text start stop) : start ≤ stop := by
  obtain ⟨before, gap, after, whole, inside, rfl, rfl⟩ := blanks
  exact Nat.le_add_right _ _

theorem covers_nil (blanks : BlankBetween text cursor (stopOf text ending)) :
    Covers text cursor [] ending where
  within := List.forall_mem_nil _
  behind := List.forall_mem_nil _
  ordered := .nil
  between := List.forall_mem_singleton.2 blanks
  named := List.forall_mem_nil _

theorem covers_cons (blanks : BlankBetween text cursor slice.start) (written : Written text slice)
    (later : Covers text slice.stop slices ending) :
    Covers text cursor (slice :: slices) ending := by
  have bounds := bounds_of_written written
  have passed := le_of_blank_between blanks
  exact {
    within := List.forall_mem_cons.2 ⟨bounds, later.within⟩
    behind := List.forall_mem_cons.2 ⟨passed, fun other member =>
      passed.trans (bounds.1.le.trans (later.behind other member))⟩
    ordered := .cons later.behind later.ordered
    between := List.forall_mem_cons.2 ⟨blanks, later.between⟩
    named := List.forall_mem_cons.2 ⟨word_of_written written, later.named⟩ }

theorem covers_of_calls (calls : Calls text cursor slices ending)
    (boundary : Boundary text cursor) : Covers text cursor slices ending := by
  induction calls with
  | ended called =>
    cases answers_of_call called boundary with
    | ended blanks => exact covers_nil blanks
  | fault called =>
    cases answers_of_call called boundary with
    | fault blanks => exact covers_nil blanks
  | token called later ih =>
    cases answers_of_call called boundary with
    | token blanks written => exact covers_cons blanks written (ih (bounds_of_written written).2.2)

/-- Calls of a cursor that starts at the front of a text come to an end, with the tokens and the fault
that are read from the characters. Each token takes some octets, from between two characters to
between two characters; tokens follow one another, none is a word without characters, and nothing but
blanks is before the first, between two, and behind the last up to the end or to what is no token. -/
theorem calls_cover (text : String) :
    let lexemes := Lexemes.scan 0 text.toList
    Calls text.toList 0 (slicesOf lexemes) lexemes.fault ∧
      Covers text.toList 0 (slicesOf lexemes) lexemes.fault := by
  have calls : Calls text.toList 0 _ _ := @calls_of_scan [] text.toList _ rfl
  exact ⟨calls, covers_of_calls calls (boundary_append [] text.toList)⟩

/-- A word of two octets, a quote behind a backslash, and an `&` by itself behind that. -/
example : slicesOf (Lexemes.scan 0 "é = '\\'' &".toList) =
      [⟨0, 2, .word "é"⟩, ⟨3, 4, .comparison .equal⟩, ⟨5, 9, .text "'"⟩] ∧
    call? "é = '\\'' &".toList 9 = some (.fault 10 (.undoubled '&'), 10) := by
  decide +kernel

end ServerIncludes.TokenCursor
