import ServerIncludes.Toml.Text

/-!
Reading TOML documents. Values in brackets and braces are read with a list of what is open around
them, the innermost first, so nesting is bounded by the length of a list. A document is read line by
line, and its tables are built up from what the lines say.
-/

namespace ServerIncludes.Toml

/-- The greatest number of brackets and braces that may be open, and of parts in a dotted key. -/
def deepest : Nat := 79

theorem length_of_commentBreak {rest next : List Char} (c : Char)
    (ended : dropBreak? (rest.dropWhile isPlain) = some next) :
    next.length < (c :: rest).length := by
  have := length_of_dropBreak? ended
  have := (List.dropWhile_sublist isPlain (l := rest)).length_le
  rw [List.length_cons]
  omega

/-- Leaves out blanks, line breaks and comments up to the ends of their lines. -/
def dropGaps (text : List Char) : List Char :=
  match text with
  | [] => []
  | c :: rest =>
    if isSpace c then dropGaps rest
    else if c = '#' then
      match ended : dropBreak? (rest.dropWhile isPlain) with
      | none => c :: rest
      | some next =>
        have := length_of_commentBreak c ended
        dropGaps next
    else
      match broken : dropBreak? (c :: rest) with
      | none => c :: rest
      | some next =>
        have := length_of_dropBreak? broken
        dropGaps next
termination_by text.length
decreasing_by
  · exact Nat.lt_succ_self _
  · exact this
  · exact this

theorem length_dropGaps_le (text : List Char) : (dropGaps text).length ≤ text.length := by
  fun_induction dropGaps text with
  | case1 => exact Nat.le_refl _
  | case2 c rest _ ih => exact Nat.le_succ_of_le ih
  | case3 => exact Nat.le_refl _
  | case4 => omega
  | case5 => exact Nat.le_refl _
  | case6 => omega

/-- Leaves out a comment, if the text starts with one. -/
def dropComment : List Char → List Char
  | [] => []
  | c :: rest => if c = '#' then rest.dropWhile isPlain else c :: rest

theorem length_dropComment_le (text : List Char) : (dropComment text).length ≤ text.length := by
  unfold dropComment
  split
  · exact Nat.le_refl _
  · next c rest =>
    split
    · exact Nat.le_succ_of_le (List.dropWhile_sublist isPlain).length_le
    · exact Nat.le_refl _

/-- Leaves out the end of a line: blanks, a comment, and the line break unless the text ends. -/
def dropLineEnd? (text : List Char) : Option (List Char) :=
  match dropComment (text.dropWhile isSpace) with
  | [] => some []
  | c :: rest => dropBreak? (c :: rest)

theorem length_of_dropLineEnd?_le {text rest : List Char}
    (dropped : dropLineEnd? text = some rest) : rest.length ≤ text.length := by
  have := (List.dropWhile_sublist isSpace (l := text)).length_le
  have within := length_dropComment_le (text.dropWhile isSpace)
  unfold dropLineEnd? at dropped
  split at dropped
  · cases dropped
    exact Nat.zero_le _
  · next c after uncommented =>
    have := length_of_dropBreak? dropped
    rw [uncommented] at within
    omega

theorem length_of_dropLineEnd? {text rest : List Char} (nonempty : text ≠ [])
    (dropped : dropLineEnd? text = some rest) : rest.length < text.length := by
  have positive := List.length_pos_iff.2 nonempty
  have := (List.dropWhile_sublist isSpace (l := text)).length_le
  have within := length_dropComment_le (text.dropWhile isSpace)
  unfold dropLineEnd? at dropped
  split at dropped
  · cases dropped
    exact positive
  · next c after uncommented =>
    have := length_of_dropBreak? dropped
    rw [uncommented] at within
    omega

/-- Characters of a part of a key that has no quotes. -/
def isBareKeyChar (c : Char) : Bool := c.isAlphanum || c == '_' || c == '-'

/-- Reads a part of a key: a text in quotes, or a word. -/
def readName : List Char → Option (String × List Char)
  | [] => none
  | c :: rest =>
    if c = '"' ∨ c = '\'' then
      (Text.readLine c rest).map fun (content, after) => (String.ofList content, after)
    else if isBareKeyChar c then
      some (String.ofList (c :: rest.takeWhile isBareKeyChar), rest.dropWhile isBareKeyChar)
    else none

theorem length_of_readName {text rest : List Char} {name : String}
    (read : readName text = some (name, rest)) : rest.length < text.length := by
  unfold readName at read
  split at read
  · cases read
  · next c after =>
    split at read
    · obtain ⟨⟨_, _⟩, found, same⟩ := Option.map_eq_some_iff.1 read
      cases same
      exact Nat.lt_succ_of_lt (Text.length_of_readLine found)
    · split at read
      · cases read
        exact Nat.lt_succ_of_le (List.dropWhile_sublist isBareKeyChar).length_le
      · cases read

/-- Reads a key, whose parts have points between them, and the blanks around its parts. -/
def readKey (text : List Char) : Option (Key × List Char) :=
  match found : readName (text.dropWhile isSpace) with
  | none => none
  | some (name, rest) =>
    match following : rest.dropWhile isSpace with
    | [] => some (⟨[], name⟩, [])
    | c :: after =>
      if c = '.' then
        have : after.length < text.length := by
          have := length_of_readName found
          have := (List.dropWhile_sublist isSpace (l := text)).length_le
          have within := (List.dropWhile_sublist isSpace (l := rest)).length_le
          rw [following, List.length_cons] at within
          omega
        (readKey after).map fun (key, after) => (⟨name :: key.path, key.name⟩, after)
      else some (⟨[], name⟩, c :: after)
termination_by text.length

theorem length_of_readKey {text rest : List Char} {key : Key}
    (read : readKey text = some (key, rest)) : rest.length < text.length := by
  fun_induction readKey text generalizing key rest with
  | case1 => cases read
  | case2 text name after found _ =>
    cases read
    have := length_of_readName found
    have := (List.dropWhile_sublist isSpace (l := text)).length_le
    simp only [List.length_nil]
    omega
  | case3 text _ _ _ _ _ shorter ih =>
    obtain ⟨⟨_, _⟩, later, same⟩ := Option.map_eq_some_iff.1 read
    cases same
    have := ih later
    omega
  | case4 text name after found c next following _ =>
    cases read
    have := length_of_readName found
    have := (List.dropWhile_sublist isSpace (l := text)).length_le
    have within := (List.dropWhile_sublist isSpace (l := after)).length_le
    rw [following] at within
    omega

/-- Reads a key, what has to follow it, and the blanks after that. -/
def readKeyBefore (follower : List Char) (text : List Char) : Option (Key × List Char) :=
  match readKey text with
  | none => none
  | some (key, rest) =>
    if key.path.length < deepest ∧ follower.isPrefixOf rest then
      some (key, (rest.drop follower.length).dropWhile isSpace)
    else none

theorem length_of_readKeyBefore {follower text rest : List Char} {key : Key}
    (read : readKeyBefore follower text = some (key, rest)) : rest.length < text.length := by
  unfold readKeyBefore at read
  split at read
  · cases read
  · next found =>
    split at read
    · cases read
      have := length_of_readKey found
      refine Nat.lt_of_le_of_lt (List.dropWhile_sublist isSpace).length_le ?_
      simp only [List.length_drop]
      omega
    · cases read

/-- An array or a table that is open, with what has been read of it. -/
inductive Opened where
  | array (items : List Value)
  /-- The value of the key is next. -/
  | table (entries : Entries) (key : Key)

theorem length_lt_cons (c : Char) (rest : List Char) : rest.length < (c :: rest).length :=
  Nat.lt_succ_self _

/-- Reads a value without brackets and braces around it. -/
def readScalar : List Char → Option (Scalar × List Char)
  | [] => none
  | c :: rest =>
    if c = '"' ∨ c = '\'' then
      (Text.read c rest).map fun (content, after) => (.text (String.ofList content), after)
    else Scalar.read (c :: rest)

theorem length_of_readScalar {text rest : List Char} {value : Scalar}
    (read : readScalar text = some (value, rest)) : rest.length < text.length := by
  unfold readScalar at read
  split at read
  · cases read
  · next c after =>
    split at read
    · obtain ⟨⟨_, _⟩, found, same⟩ := Option.map_eq_some_iff.1 read
      cases same
      exact Nat.lt_succ_of_lt (Text.length_of_read found)
    · exact Scalar.length_of_read read

mutual

/-- Reads a value, and goes on with what is open around it. -/
def readValue (opened : List Opened) (text : List Char) : Option (Value × List Char) :=
  match text with
  | [] => none
  | c :: rest =>
    if c = '[' then
      have within := length_dropGaps_le rest
      match inside : dropGaps rest with
      | [] => none
      | next :: after =>
        have : (next :: after).length < (c :: rest).length := by
          rw [inside] at within
          exact Nat.lt_succ_of_le within
        have := length_lt_cons next after
        if deepest ≤ opened.length then none
        else if next = ']' then finish opened (.array []) after
        else readValue (.array [] :: opened) (next :: after)
    else if c = '\x7b' then
      have within := (List.dropWhile_sublist isSpace (l := rest)).length_le
      match inside : rest.dropWhile isSpace with
      | [] => none
      | next :: after =>
        have : (next :: after).length < (c :: rest).length := by
          rw [inside] at within
          exact Nat.lt_succ_of_le within
        have := length_lt_cons next after
        if deepest ≤ opened.length then none
        else if next = '\x7d' then finish opened (.table .braced []) after
        else
          match found : readKeyBefore ['='] (next :: after) with
          | none => none
          | some (key, following) =>
            have := length_of_readKeyBefore found
            readValue (.table [] key :: opened) following
    else
      match found : readScalar (c :: rest) with
      | none => none
      | some (value, after) =>
        have := length_of_readScalar found
        finish opened (.scalar value) after
termination_by text.length
decreasing_by all_goals omega

/-- Gives a value to the innermost of what is open, and goes on with what comes next there. -/
def finish (opened : List Opened) (value : Value) (text : List Char) :
    Option (Value × List Char) :=
  match opened with
  | [] => some (value, text)
  | .array items :: outer =>
    have within := length_dropGaps_le text
    match inside : dropGaps text with
    | [] => none
    | c :: rest =>
      have : rest.length < text.length := by
        rw [inside] at within
        exact within
      if c = ']' then finish outer (.array (items ++ [value])) rest
      else if c = ',' then
        have within := length_dropGaps_le rest
        match inside : dropGaps rest with
        | [] => none
        | next :: after =>
          have : (next :: after).length ≤ rest.length := by
            rw [inside] at within
            exact within
          have := length_lt_cons next after
          if next = ']' then finish outer (.array (items ++ [value])) after
          else readValue (.array (items ++ [value]) :: outer) (next :: after)
      else none
  | .table entries key :: outer =>
    match Entries.assign key value .braced entries with
    | none => none
    | some entries =>
      have within := (List.dropWhile_sublist isSpace (l := text)).length_le
      match inside : text.dropWhile isSpace with
      | [] => none
      | c :: rest =>
        have : rest.length < text.length := by
          rw [inside] at within
          exact within
        if c = '\x7d' then finish outer (.table .braced entries) rest
        else if c = ',' then
          match found : readKeyBefore ['='] rest with
          | none => none
          | some (key, following) =>
            have := length_of_readKeyBefore found
            readValue (.table entries key :: outer) following
        else none
termination_by text.length
decreasing_by all_goals omega

end

/-- What is read is left out of a text, for texts of less than some length. -/
theorem length_of_readValue_finish (bound : Nat) :
    (∀ opened text value rest, text.length < bound →
      readValue opened text = some (value, rest) → rest.length < text.length) ∧
    (∀ opened given text value rest, text.length < bound →
      finish opened given text = some (value, rest) → rest.length ≤ text.length) := by
  induction bound with
  | zero => exact ⟨fun _ _ _ _ below => absurd below (Nat.not_lt_zero _),
      fun _ _ _ _ _ below => absurd below (Nat.not_lt_zero _)⟩
  | succ bound ih =>
    obtain ⟨ofRead, ofFinish⟩ := ih
    refine ⟨fun opened text value rest below read => ?_,
      fun opened given text value rest below read => ?_⟩
    · unfold readValue at read
      split at read
      · cases read
      · next c after =>
        rw [List.length_cons] at below ⊢
        split at read
        · have within := length_dropGaps_le after
          split at read
          · cases read
          · next next following inside =>
            rw [inside, List.length_cons] at within
            split at read
            · cases read
            · split at read
              · have := ofFinish _ _ _ _ _ (by omega) read
                omega
              · have := ofRead _ _ _ _ (by rw [List.length_cons]; omega) read
                rw [List.length_cons] at this
                omega
        · split at read
          · have within := (List.dropWhile_sublist isSpace (l := after)).length_le
            split at read
            · cases read
            · next next following inside =>
              rw [inside, List.length_cons] at within
              split at read
              · cases read
              · split at read
                · have := ofFinish _ _ _ _ _ (by omega) read
                  omega
                · split at read
                  · cases read
                  · next key following found =>
                    have shorter := length_of_readKeyBefore found
                    rw [List.length_cons] at shorter
                    have := ofRead _ _ _ _ (by omega) read
                    omega
          · split at read
            · cases read
            · next found =>
              have shorter := length_of_readScalar found
              rw [List.length_cons] at shorter
              have := ofFinish _ _ _ _ _ (by omega) read
              omega
    · unfold finish at read
      split at read
      · cases read
        exact Nat.le_refl _
      · have within := length_dropGaps_le text
        split at read
        · cases read
        · next c after inside =>
          rw [inside, List.length_cons] at within
          split at read
          · have := ofFinish _ _ _ _ _ (by omega) read
            omega
          · split at read
            · have within' := length_dropGaps_le after
              split at read
              · cases read
              · next c following inside =>
                rw [inside, List.length_cons] at within'
                split at read
                · have := ofFinish _ _ _ _ _ (by omega) read
                  omega
                · have := ofRead _ _ _ _ (by rw [List.length_cons]; omega) read
                  rw [List.length_cons] at this
                  omega
            · cases read
      · split at read
        · cases read
        · have within := (List.dropWhile_sublist isSpace (l := text)).length_le
          split at read
          · cases read
          · next c after inside =>
            rw [inside, List.length_cons] at within
            split at read
            · have := ofFinish _ _ _ _ _ (by omega) read
              omega
            · split at read
              · split at read
                · cases read
                · next found =>
                  have := length_of_readKeyBefore found
                  have := ofRead _ _ _ _ (by omega) read
                  omega
              · cases read

theorem length_of_readValue {opened : List Opened} {text rest : List Char} {value : Value}
    (read : readValue opened text = some (value, rest)) : rest.length < text.length :=
  (length_of_readValue_finish (text.length + 1)).1 opened text value rest (Nat.lt_succ_self _) read

/-- Reads a line of a text that is not at its end, with the line break. -/
def readLine (text : List Char) : Option (Option Line × List Char) :=
  match dropLineEnd? text with
  | some rest => some (none, rest)
  | none =>
    match text.dropWhile isSpace with
    | '[' :: '[' :: header => do
      let (key, rest) ← readKeyBefore [']', ']'] header
      return (some (.elementHeader key), ← dropLineEnd? rest)
    | '[' :: header => do
      let (key, rest) ← readKeyBefore [']'] header
      return (some (.tableHeader key), ← dropLineEnd? rest)
    | assignment => do
      let (key, rest) ← readKeyBefore ['='] assignment
      let (value, rest) ← readValue [] rest
      return (some (.assignment key value), ← dropLineEnd? rest)

theorem length_of_readLine {text rest : List Char} {line : Option Line} (nonempty : text ≠ [])
    (read : readLine text = some (line, rest)) : rest.length < text.length := by
  have within := (List.dropWhile_sublist isSpace (l := text)).length_le
  unfold readLine at read
  split at read
  · next dropped =>
    cases read
    exact length_of_dropLineEnd? nonempty dropped
  · split at read
    · next header bracketed =>
      rw [bracketed] at within
      simp only [Option.bind_eq_bind, Option.bind_eq_some_iff, Option.pure_def, Option.some.injEq,
        Prod.mk.injEq] at read
      obtain ⟨⟨_, _⟩, found, _, dropped, _, rfl⟩ := read
      have := length_of_readKeyBefore found
      have := length_of_dropLineEnd?_le dropped
      simp only [List.length_cons] at *
      omega
    · next header _ bracketed =>
      rw [bracketed] at within
      simp only [Option.bind_eq_bind, Option.bind_eq_some_iff, Option.pure_def, Option.some.injEq,
        Prod.mk.injEq] at read
      obtain ⟨⟨_, _⟩, found, _, dropped, _, rfl⟩ := read
      have := length_of_readKeyBefore found
      have := length_of_dropLineEnd?_le dropped
      simp only [List.length_cons] at *
      omega
    · simp only [Option.bind_eq_bind, Option.bind_eq_some_iff, Option.pure_def, Option.some.injEq,
        Prod.mk.injEq] at read
      obtain ⟨⟨_, _⟩, found, ⟨_, _⟩, valued, _, dropped, _, rfl⟩ := read
      have := length_of_readKeyBefore found
      have := length_of_readValue valued
      have := length_of_dropLineEnd?_le dropped
      simp only at *
      omega

/-- Reads the lines of a text that say something. -/
def readLines (text : List Char) : Option (List Line) :=
  match text with
  | [] => some []
  | c :: rest =>
    match found : readLine (c :: rest) with
    | none => none
    | some (line, after) =>
      have := length_of_readLine (List.cons_ne_nil c rest) found
      (readLines after).map (line.toList ++ ·)
termination_by text.length
decreasing_by all_goals (simp only [List.length_cons] at *; omega)

/-- The table that a document is. A byte order mark in front of it does not count. -/
def parse? (document : String) : Option Entries :=
  let text :=
    match document.toList with
    | [] => []
    | c :: rest => if c.toNat = 0xFEFF then rest else c :: rest
  (readLines text).bind Entries.ofLines?

end ServerIncludes.Toml
