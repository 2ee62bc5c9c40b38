import ServerIncludes.Toml.Scalar

/-!
Texts of TOML documents: in double quotes, where a backslash starts an escape, or in single quotes,
where it does not, and with three quotes on each side over several lines. The readers start after
the opening quotes and give what comes after the closing ones.
-/

namespace ServerIncludes.Toml

/-- A blank within a line. -/
def isSpace (c : Char) : Bool := c == ' ' || c == '\t'

/-- Characters of texts and comments: all but control characters, and the tab. -/
def isPlain (c : Char) : Bool := c == '\t' || (' ' ≤ c && c.toNat ≠ 0x7F)

/-- The line break at the front of a text is left out, if there is one. -/
def dropBreak? : List Char → Option (List Char)
  | '\n' :: rest => some rest
  | '\r' :: '\n' :: rest => some rest
  | _ => none

theorem length_of_dropBreak? {text rest : List Char} (dropped : dropBreak? text = some rest) :
    rest.length < text.length := by
  unfold dropBreak? at dropped
  split at dropped
  · cases dropped
    simp
  · cases dropped
    simp only [List.length_cons]
    omega
  · cases dropped

/-- Leaves out blanks and line breaks. -/
def dropBlanks : List Char → List Char
  | [] => []
  | '\r' :: '\n' :: rest => dropBlanks rest
  | c :: rest => if isSpace c || c == '\n' then dropBlanks rest else c :: rest

theorem length_dropBlanks_le (text : List Char) : (dropBlanks text).length ≤ text.length := by
  fun_induction dropBlanks text with
  | case1 => exact Nat.le_refl _
  | case2 rest ih =>
    simp only [List.length_cons]
    omega
  | case3 c rest _ _ ih => exact Nat.le_succ_of_le ih
  | case4 => exact Nat.le_refl _

namespace Text

/-- The character that hexadecimal digits are the code point of. -/
def ofCode? (count : Nat) (digits : List Char) : Option Char :=
  if digits.length = count ∧ digits.all Digits.isHexadecimal then
    let code := Digits.number 16 digits
    if code.isValidChar then some (Char.ofNat code) else none
  else none

/-- Reads an escape after its backslash. -/
def escape? : List Char → Option (Char × List Char)
  | [] => none
  | c :: rest =>
    if c = 'b' then some (Char.ofNat 8, rest)
    else if c = 't' then some ('\t', rest)
    else if c = 'n' then some ('\n', rest)
    else if c = 'f' then some (Char.ofNat 12, rest)
    else if c = 'r' then some ('\r', rest)
    else if c = '"' then some ('"', rest)
    else if c = '\\' then some ('\\', rest)
    else if c = 'u' then (ofCode? 4 (rest.take 4)).map (·, rest.drop 4)
    else if c = 'U' then (ofCode? 8 (rest.take 8)).map (·, rest.drop 8)
    else none

theorem length_of_escape? {text rest : List Char} {c : Char}
    (found : escape? text = some (c, rest)) : rest.length < text.length := by
  unfold escape? at found
  repeat' split at found
  all_goals
    simp only [Option.map_eq_some_iff, Option.some.injEq, Prod.mk.injEq, reduceCtorEq] at found
  case _ => obtain ⟨_, rfl⟩ := found; simp
  case _ => obtain ⟨_, rfl⟩ := found; simp
  case _ => obtain ⟨_, rfl⟩ := found; simp
  case _ => obtain ⟨_, rfl⟩ := found; simp
  case _ => obtain ⟨_, rfl⟩ := found; simp
  case _ => obtain ⟨_, rfl⟩ := found; simp
  case _ => obtain ⟨_, rfl⟩ := found; simp
  case _ =>
    obtain ⟨_, _, _, rfl⟩ := found
    simp only [List.length_drop, List.length_cons]
    omega
  case _ =>
    obtain ⟨_, _, _, rfl⟩ := found
    simp only [List.length_drop, List.length_cons]
    omega

/-- Reads a text within a line, in quotes of a kind. -/
def readLine (quote : Char) (text : List Char) : Option (List Char × List Char) :=
  match text with
  | [] => none
  | c :: rest =>
    if c = quote then some ([], rest)
    else if c = '\\' ∧ quote = '"' then
      match found : escape? rest with
      | none => none
      | some (c, after) =>
        have := length_of_escape? found
        (readLine quote after).map fun (content, after) => (c :: content, after)
    else if isPlain c then
      (readLine quote rest).map fun (content, after) => (c :: content, after)
    else none
termination_by text.length

theorem length_of_readLine {quote : Char} {text content after : List Char}
    (read : readLine quote text = some (content, after)) : after.length < text.length := by
  fun_induction readLine quote text generalizing content after with
  | case1 => cases read
  | case2 =>
    cases read
    simp
  | case3 => cases read
  | case4 c rest _ _ _ _ found shorter ih =>
    obtain ⟨⟨_, _⟩, later, same⟩ := Option.map_eq_some_iff.1 read
    cases same
    have := ih later
    simp only [List.length_cons]
    omega
  | case5 c rest _ _ _ ih =>
    obtain ⟨⟨_, _⟩, later, same⟩ := Option.map_eq_some_iff.1 read
    cases same
    exact Nat.lt_succ_of_lt (ih later)
  | case6 => cases read

/-- Closes a text after three quotes: up to two more that follow belong to the text. -/
def close (quote : Char) (rest : List Char) : List Char × List Char :=
  let extra := (rest.take 2).takeWhile (· == quote)
  (extra, rest.drop extra.length)

/-- Reads a text over several lines, in three quotes of a kind. A backslash at the end of a line
joins it to the next character that is no blank. -/
def readLines (quote : Char) (text : List Char) : Option (List Char × List Char) :=
  match text with
  | [] => none
  | c :: rest =>
    if rest.take 2 = [quote, quote] ∧ c = quote then some (close quote (rest.drop 2))
    else if c = '\\' ∧ quote = '"' then
      match broken : dropBreak? (rest.dropWhile isSpace) with
      | some next =>
        have : (dropBlanks next).length < (c :: rest).length := by
          have := length_of_dropBreak? broken
          have := (List.dropWhile_sublist isSpace (l := rest)).length_le
          have := length_dropBlanks_le next
          simp only [List.length_cons]
          omega
        readLines quote (dropBlanks next)
      | none =>
        match found : escape? rest with
        | none => none
        | some (c, after) =>
          have := length_of_escape? found
          (readLines quote after).map fun (content, after) => (c :: content, after)
    else
      match broken : dropBreak? (c :: rest) with
      | some next =>
        have := length_of_dropBreak? broken
        (readLines quote next).map fun (content, after) => ('\n' :: content, after)
      | none =>
        if isPlain c then
          (readLines quote rest).map fun (content, after) => (c :: content, after)
        else none
termination_by text.length
decreasing_by all_goals (simp only [List.length_cons] at *; omega)

theorem length_of_readLines {quote : Char} {text content after : List Char}
    (read : readLines quote text = some (content, after)) : after.length < text.length := by
  fun_induction readLines quote text generalizing content after with
  | case1 => cases read
  | case2 c rest _ =>
    cases read
    simp only [List.length_drop, List.length_cons]
    omega
  | case3 c rest _ _ next _ shorter ih =>
    have := ih read
    omega
  | case4 => cases read
  | case5 c rest _ _ _ _ _ found shorter ih =>
    obtain ⟨⟨_, _⟩, later, same⟩ := Option.map_eq_some_iff.1 read
    cases same
    have := ih later
    simp only [List.length_cons]
    omega
  | case6 c rest _ _ next _ shorter ih =>
    obtain ⟨⟨_, _⟩, later, same⟩ := Option.map_eq_some_iff.1 read
    cases same
    have := ih later
    omega
  | case7 c rest _ _ _ _ ih =>
    obtain ⟨⟨_, _⟩, later, same⟩ := Option.map_eq_some_iff.1 read
    cases same
    exact Nat.lt_succ_of_lt (ih later)
  | case8 => cases read

/-- Reads a text in quotes of a kind, after the first of its quotes. A line break right after three
quotes does not belong to the text. -/
def read (quote : Char) (text : List Char) : Option (List Char × List Char) :=
  if text.take 2 = [quote, quote] then
    readLines quote ((dropBreak? (text.drop 2)).getD (text.drop 2))
  else readLine quote text

theorem length_of_read {quote : Char} {text content after : List Char}
    (found : read quote text = some (content, after)) : after.length < text.length := by
  unfold read at found
  split at found
  · have shorter := length_of_readLines found
    cases dropped : dropBreak? (text.drop 2) with
    | none =>
      simp only [dropped, Option.getD_none, List.length_drop] at shorter
      omega
    | some next =>
      have := length_of_dropBreak? dropped
      simp only [dropped, Option.getD_some, List.length_drop] at shorter this
      omega
  · exact length_of_readLine found

end Text

end ServerIncludes.Toml
