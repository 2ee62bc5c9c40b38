import ServerIncludes.Proofs.Template.Markers

/-! A name in braces divides a value. What stands before it is read as it would be by itself, unless
it ends in a backslash, which would escape the dollar sign; and what stands behind it is read as it
would be by itself, only that a marker that cannot be read is found further on. -/
namespace ServerIncludes.TemplateSplitting

open MarkerFaults Parts Template TemplateWriting

/-! ## Places -/

/-- A fault in a value that some octets stand before. -/
def movedBy (octets : Nat) (error : MarkerError) : MarkerError :=
  ⟨error.fault, octets + error.position⟩

theorem map_error_map (step : Except ε α) (change : α → β) (report : ε → ε') :
    (step.map change).mapError report = (step.mapError report).map change := by
  cases step <;> rfl

/-- A marker that cannot be read is refused where it stands. -/
theorem pieces_unreadable (unread : Unreadable fault rest) (position : Nat) :
    pieces position ('$' :: '{' :: rest) = .error ⟨fault, position⟩ := by
  rw [pieces]
  cases unread with
  | unclosed open_ =>
    split
    · rfl
    · rename_i found
      exact absurd (split_at_stop found ▸ List.mem_append_right _ List.mem_cons_self) open_
  | empty =>
    split
    · rename_i found
      cases found
    · rfl

/-- Where a value starts makes no difference but to the places of its faults. -/
theorem pieces_moved (octets position : Nat) (value : List Char) :
    pieces (octets + position) value = (pieces position value).mapError (movedBy octets) := by
  fun_induction pieces position value with
  | case1 => rw [pieces]; rfl
  | case2 position rest ih => rw [pieces, map_error_map, ← ih, Nat.add_assoc]
  | case3 position rest nothing =>
    have open_ : '}' ∉ rest := fun member => by
      simpa using List.dropWhile_eq_nil_iff.1 nothing '}' member
    rw [pieces_unreadable (.unclosed open_)]
    rfl
  | case4 position rest name head after split shorter empty =>
    have nothing : rest.takeWhile (· != '}') = [] := List.isEmpty_iff.1 empty
    rw [split_at_stop split, nothing, List.nil_append, pieces_unreadable .empty]
    rfl
  | case5 position rest name head after split shorter nonempty =>
    rename_i ih
    rw [split_at_stop split, pieces_braced (mt List.isEmpty_iff.2 nonempty)
      (not_mem_takeWhile '}' rest), map_error_map, ← ih, Nat.add_assoc, Nat.add_assoc, Nat.add_assoc]
  | case6 position c rest notBrace isName name shorter =>
    rename_i ih
    have named : ∀ other ∈ name, isNameChar other = true :=
      List.forall_mem_cons.2 ⟨isName, fun other member => List.mem_takeWhile_imp member⟩
    have bare := pieces_bare named (head_dropWhile isNameChar rest) (octets + position)
    rw [List.takeWhile_append_dropWhile] at bare
    rw [bare, map_error_map, ← ih, Nat.add_assoc, Nat.add_assoc, Nat.add_assoc]
  | case7 position c rest notBrace notName ih =>
    have alone : c ≠ '{' ∧ isNameChar c = false := ⟨notBrace, by simpa using notName⟩
    rw [pieces_dollar (by simpa using alone), map_error_map, ← ih, Nat.add_assoc]
  | case8 position c rest notEscaped notBraced notDollar ih =>
    rw [pieces, map_error_map, ← ih, Nat.add_assoc]
    · exact notEscaped
    · exact notBraced
    · exact notDollar

/-! ## What stands before a marker -/

/-- What is read at the front of a value comes before what is read from the rest of it. -/
theorem pieces_pass (passed : List Char)
    (first : pieces position (passed ++ (value ++ rest)) =
      (pieces (position + utf8Length passed) (value ++ rest)).map (part :: ·))
    (later : ∀ reached, pieces reached (value ++ rest) =
      (pieces (reached + utf8Length value) rest).map (parts ++ ·)) :
    pieces position (passed ++ value ++ rest) =
      (pieces (position + utf8Length (passed ++ value)) rest).map (part :: parts ++ ·) := by
  rw [List.append_assoc, first, later, utf8_length_append, ← Nat.add_assoc]
  cases pieces (position + utf8Length passed + utf8Length value) rest <;> rfl

theorem head_before_marker (holds : Char → Prop) (dollar : holds '$')
    (starts : ∀ c ∈ value.head?, holds c) (rest : List Char) :
    ∀ c ∈ (value ++ '$' :: rest).head?, holds c := by
  cases value with
  | nil => exact fun c here => Option.some.inj here ▸ dollar
  | cons first value => exact starts

/-- A value that does not end in a backslash is read as it is by itself, and then the marker behind
it. -/
theorem pieces_front (reading : Reading before parts) (plain : EndsPlain before) (position : Nat)
    (rest : List Char) :
    pieces position (before ++ '$' :: '{' :: rest) =
      (pieces (position + utf8Length before) ('$' :: '{' :: rest)).map (parts ++ ·) := by
  induction reading generalizing position with
  | done =>
    rw [List.nil_append, utf8Length, Nat.add_zero]
    cases pieces position ('$' :: '{' :: rest) <;> rfl
  | @escaped value parts later ih =>
    have others := ends_plain_of_cons (ends_plain_of_cons plain)
    exact pieces_pass ['\\', '$'] (pieces.eq_2 ..) (ih others)
  | @braced name value parts nonempty closes later ih =>
    have passed : '$' :: '{' :: (name ++ '}' :: value) = '$' :: '{' :: (name ++ ['}']) ++ value := by
      simp
    rw [passed] at plain ⊢
    refine pieces_pass ('$' :: '{' :: (name ++ ['}'])) ?_ (ih (ends_plain_of_append _ plain))
    have braced := pieces_braced nonempty closes position (value ++ '$' :: '{' :: rest)
    rw [utf8_length_braced, ← Nat.add_assoc, ← braced]
    simp
  | @bare first name value parts named ends later ih =>
    have others := ends_plain_of_append ('$' :: first :: name) plain
    have apart := head_before_marker (isNameChar · = false) rfl ends ('{' :: rest)
    refine pieces_pass ('$' :: first :: name) ?_ (ih others)
    rw [utf8Length, ← Nat.add_assoc]
    exact pieces_bare named apart position
  | @dollar value parts alone later ih =>
    have apart := head_before_marker (fun c => c ≠ '{' ∧ isNameChar c = false)
      ⟨by decide, rfl⟩ alone ('{' :: rest)
    exact pieces_pass ['$'] (pieces_dollar apart _) (ih (ends_plain_of_cons plain))
  | @plain c value parts notDollar unescaped later ih =>
    refine pieces_pass [c] (pieces_plain notDollar ?_ _) (ih (ends_plain_of_cons plain))
    intro isBackslash
    cases value with
    | nil => exact absurd (congrArg some isBackslash) plain
    | cons next value => exact unescaped isBackslash

/-! ## Segments -/

/-- A template, a variable behind it, and another template behind that. -/
def around (name : String) (template later : Template) : Template :=
  ⟨template.segments ++ .marker name :: later.segments⟩

theorem push_text_append (run : List Char) (segments later : List Segment) :
    pushText run (segments ++ later) = pushText run segments ++ later := by
  cases run <;> rfl

/-- No text is gathered across a marker. -/
theorem gather_marker (front later : List Piece) (name : List Char) :
    gather (front ++ .marker name :: later) =
      ((gather front).1,
        (gather front).2 ++ .marker (String.ofList name) :: (ofPieces later).segments) := by
  induction front with
  | nil => rfl
  | cons piece front ih =>
    rw [List.cons_append]
    cases piece with
    | char c => simp only [gather, ih]
    | marker other => simp only [gather, ih, push_text_append, List.cons_append]

theorem of_pieces_marker (front later : List Piece) (name : List Char) :
    ofPieces (front ++ .marker name :: later) =
      around (String.ofList name) (ofPieces front) (ofPieces later) := by
  simp only [ofPieces, around, gather_marker, push_text_append]

/-! ## Values -/

theorem toList_opened (before after : String) :
    (before ++ "$\x7b" ++ after).toList = before.toList ++ '$' :: '{' :: after.toList := by
  simp

theorem toList_braced (before name after : String) :
    (before ++ "$\x7b" ++ name ++ "\x7d" ++ after).toList =
      before.toList ++ '$' :: '{' :: (name.toList ++ '}' :: after.toList) := by
  simp

variable {parts : List Piece} {before : String}

theorem parse_braced (reading : Reading before.toList parts) (plain : EndsPlain before.toList)
    (nonempty : name ≠ "") (closes : '}' ∉ name.toList) (after : String) :
    Template.parse (before ++ "$\x7b" ++ name ++ "\x7d" ++ after) =
      ((Template.parse after).map (around name (ofPieces parts))).mapError
        (movedBy (before.utf8ByteSize + name.utf8ByteSize + 3)) := by
  have filled : name.toList ≠ [] := by simpa using nonempty
  have place : 0 + before.utf8ByteSize + 3 + name.utf8ByteSize =
      before.utf8ByteSize + name.utf8ByteSize + 3 + 0 := by omega
  rw [Template.parse, Template.parse, toList_braced, pieces_front reading plain,
    pieces_braced filled closes, utf8_length_toList, utf8_length_toList, place, pieces_moved]
  cases pieces 0 after.toList with
  | error error => rfl
  | ok later =>
    have whole := of_pieces_marker parts later name.toList
    rw [String.ofList_toList] at whole
    exact congrArg Except.ok whole

theorem parse_unreadable (reading : Reading before.toList parts) (plain : EndsPlain before.toList)
    (unread : Unreadable fault after.toList) :
    Template.parse (before ++ "$\x7b" ++ after) = .error ⟨fault, before.utf8ByteSize⟩ := by
  rw [Template.parse, toList_opened, pieces_front reading plain, pieces_unreadable unread,
    Nat.zero_add, utf8_length_toList]
  rfl

/-- Behind a value that can be read and does not end in a backslash, a name in braces is a variable,
between the segments of that value and those of what follows. If what follows cannot be read, its
fault is reported as far behind its place there as the octets before it reach. Braces without a name,
and a brace that nothing closes, are reported where their dollar sign stands. -/
theorem parse_splits (before name after : String) (template : Template)
    (parsed : Template.parse before = .ok template) (plain : EndsPlain before.toList) :
    (name ≠ "" → '}' ∉ name.toList →
      Template.parse (before ++ "$\x7b" ++ name ++ "\x7d" ++ after) =
        ((Template.parse after).map (around name template)).mapError
          (movedBy (before.utf8ByteSize + name.utf8ByteSize + 3))) ∧
    Template.parse (before ++ "$\x7b\x7d" ++ after) = .error ⟨.empty, before.utf8ByteSize⟩ ∧
    ('}' ∉ after.toList →
      Template.parse (before ++ "$\x7b" ++ after) = .error ⟨.unclosed, before.utf8ByteSize⟩) := by
  obtain ⟨parts, reading, rfl⟩ := (parse_ok_iff_reading before template).1 parsed
  refine ⟨fun nonempty closes => parse_braced reading plain nonempty closes after, ?_, ?_⟩
  · have unread : Unreadable .empty ("\x7d" ++ after).toList := by
      rw [String.toList_append]
      exact .empty
    have whole : before ++ "$\x7b\x7d" ++ after = before ++ "$\x7b" ++ ("\x7d" ++ after) :=
      String.toList_inj.1 (by simp)
    rw [whole]
    exact parse_unreadable reading plain unread
  · exact fun open_ => parse_unreadable reading plain (.unclosed open_)

/-- Behind a dollar sign that stands alone, a name with another one in it, and then a marker that is
not closed. -/
theorem parse_splits_behind_dollar :
    Template.parse "é$" = .ok ⟨[.text "é$"]⟩ ∧ EndsPlain "é$".toList ∧
      ("ü$" ≠ "" ∧ '}' ∉ "ü$".toList ∧
        Template.parse "é$$\x7bü$\x7dc$\x7b" = .error ⟨.unclosed, 10⟩) ∧
      Template.parse "é$$\x7b\x7dc$\x7b" = .error ⟨.empty, 3⟩ ∧
      ('}' ∉ "c$\x7b".toList ∧ Template.parse "é$$\x7bc$\x7b" = .error ⟨.unclosed, 3⟩) := by
  have parsed : Template.parse "é$" = .ok ⟨[.text "é$"]⟩ := by decide +kernel
  have plain : EndsPlain "é$".toList := by decide
  have filled : "ü$" ≠ "" := by decide
  have closes : '}' ∉ "ü$".toList := by decide
  have open_ : '}' ∉ "c$\x7b".toList := by decide
  have later : Template.parse "c$\x7b" = .error ⟨.unclosed, 1⟩ := by decide +kernel
  obtain ⟨braced, empty, unclosed⟩ := parse_splits "é$" "ü$" "c$\x7b" _ parsed plain
  have moved := braced filled closes
  rw [later] at moved
  exact ⟨parsed, plain, ⟨filled, closes, moved⟩, empty, open_, unclosed open_⟩

/-- Behind a backslash the dollar sign is text, and what would be a name with it. -/
example : Template.parse ("a\\" ++ "$\x7bn\x7d") = .ok ⟨[.text "a$\x7bn\x7d"]⟩ := by decide +kernel

end ServerIncludes.TemplateSplitting
