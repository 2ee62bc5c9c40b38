import ServerIncludes.Proofs.Parts
import ServerIncludes.Template

/-! Templates are read back from what they are written as. What reading yields is in one form, in
which no text is empty or next to another one and no text before a marker ends in a backslash; each
template of that form is read from its own written form. -/
namespace ServerIncludes.TemplateWriting

open Template Parts

/-! ## What is read from a value -/

/-- The pieces that a value is read as. Where in a text the value stands does not matter. -/
inductive Reading : List Char → List Piece → Prop where
  | done : Reading [] []
  | escaped (later : Reading rest parts) : Reading ('\\' :: '$' :: rest) (.char '$' :: parts)
  | braced (nonempty : name ≠ []) (closes : '}' ∉ name) (later : Reading rest parts) :
    Reading ('$' :: '{' :: (name ++ '}' :: rest)) (.marker name :: parts)
  | bare (named : ∀ c ∈ first :: name, isNameChar c = true)
      (ends : ∀ c ∈ rest.head?, isNameChar c = false) (later : Reading rest parts) :
    Reading ('$' :: first :: (name ++ rest)) (.marker (first :: name) :: parts)
  | dollar (alone : ∀ c ∈ rest.head?, c ≠ '{' ∧ isNameChar c = false)
      (later : Reading rest parts) : Reading ('$' :: rest) (.char '$' :: parts)
  | plain (notDollar : c ≠ '$') (unescaped : c = '\\' → rest.head? ≠ some '$')
      (later : Reading rest parts) : Reading (c :: rest) (.char c :: parts)

theorem reading_of_pieces (done : pieces position value = .ok parts) : Reading value parts := by
  fun_induction pieces position value generalizing parts with
  | case1 =>
    cases done
    exact .done
  | case2 position rest ih =>
    obtain ⟨later, found, rfl⟩ := ok_of_map done
    exact .escaped (ih found)
  | case3 => cases done
  | case4 => cases done
  | case5 position rest name head after split shorter nonempty =>
    rename_i ih
    obtain ⟨later, found, rfl⟩ := ok_of_map done
    have whole := Reading.braced (mt List.isEmpty_iff.2 nonempty) (not_mem_takeWhile '}' rest)
      (ih found)
    rwa [← split_at_stop split] at whole
  | case6 position c rest notBrace isName name shorter =>
    rename_i ih
    obtain ⟨later, found, rfl⟩ := ok_of_map done
    have named : ∀ other ∈ c :: rest.takeWhile isNameChar, isNameChar other = true := by
      intro other member
      rcases List.mem_cons.1 member with rfl | member
      · exact isName
      · exact List.mem_takeWhile_imp member
    have whole := Reading.bare named (head_dropWhile isNameChar rest) (ih found)
    rwa [List.takeWhile_append_dropWhile] at whole
  | case7 position c rest notBrace notName ih =>
    obtain ⟨later, found, rfl⟩ := ok_of_map done
    have alone : c ≠ '{' ∧ isNameChar c = false := ⟨notBrace, by simpa using notName⟩
    exact .dollar (by simpa using alone) (ih found)
  | case8 position c rest notEscaped notBraced notDollar ih =>
    obtain ⟨later, found, rfl⟩ := ok_of_map done
    by_cases isDollar : c = '$'
    · subst isDollar
      cases rest with
      | nil => exact .dollar (by simp) (ih found)
      | cons next rest => exact (notDollar next rest rfl rfl).elim
    · refine .plain isDollar ?_ (ih found)
      intro isBackslash starts
      obtain ⟨after, rfl⟩ := List.head?_eq_some_iff.1 starts
      exact notEscaped after isBackslash rfl

/-- A name in braces is read up to the brace that closes it, whatever follows. -/
theorem pieces_braced (nonempty : name ≠ []) (closes : '}' ∉ name) (position : Nat)
    (rest : List Char) :
    pieces position ('$' :: '{' :: (name ++ '}' :: rest)) =
      (pieces (position + 3 + utf8Length name) rest).map (.marker name :: ·) := by
  have inside : ∀ c ∈ name, (c != '}') = true := by
    intro c member
    have other : c ≠ '}' := fun same => closes (same ▸ member)
    simpa using other
  have ends : ∀ c ∈ ('}' :: rest).head?, (c != '}') = false := by simp
  rw [pieces]
  split
  · rename_i nothing
    rw [dropWhile_front inside ends] at nothing
    cases nothing
  · rename_i closer after split
    rw [dropWhile_front inside ends] at split
    cases split
    simp only [takeWhile_front inside ends, List.isEmpty_iff, nonempty, if_false]

/-- A name without braces is read up to a character that cannot be in it. -/
theorem pieces_bare (named : ∀ c ∈ first :: name, isNameChar c = true)
    (ends : ∀ c ∈ rest.head?, isNameChar c = false) (position : Nat) :
    pieces position ('$' :: first :: (name ++ rest)) =
      (pieces (position + 1 + utf8Length (first :: name)) rest).map
        (.marker (first :: name) :: ·) := by
  have isName : isNameChar first = true := named first List.mem_cons_self
  have inside : ∀ c ∈ name, isNameChar c = true := fun c member => named c (.tail _ member)
  have notBrace : first = '{' → False := by
    rintro rfl
    cases isName
  rw [pieces]
  · simp only [isName, if_true, takeWhile_front inside ends, dropWhile_front inside ends]
  · exact notBrace

/-- A dollar sign that starts no marker stands for itself. -/
theorem pieces_dollar (alone : ∀ c ∈ rest.head?, c ≠ '{' ∧ isNameChar c = false)
    (position : Nat) :
    pieces position ('$' :: rest) = (pieces (position + 1) rest).map (.char '$' :: ·) := by
  cases rest with
  | nil => simp [pieces]
  | cons next rest =>
    obtain ⟨notBrace, notName⟩ := alone next rfl
    rw [pieces]
    · simp only [notName, Bool.false_eq_true, if_false]
    · exact notBrace

/-- Any other character stands for itself, and so does a backslash that escapes nothing. -/
theorem pieces_plain (notDollar : c ≠ '$') (unescaped : c = '\\' → rest.head? ≠ some '$')
    (position : Nat) :
    pieces position (c :: rest) = (pieces (position + c.utf8Size) rest).map (.char c :: ·) := by
  rw [pieces]
  · rintro after isBackslash rfl
    exact unescaped isBackslash rfl
  · exact fun _ isDollar => absurd isDollar notDollar
  · exact fun _ _ isDollar => absurd isDollar notDollar

theorem pieces_of_reading (reading : Reading value parts) (position : Nat) :
    pieces position value = .ok parts := by
  induction reading generalizing position with
  | done => rw [pieces]
  | escaped later ih => rw [pieces, ih]; rfl
  | braced nonempty closes later ih => rw [pieces_braced nonempty closes, ih]; rfl
  | bare named ends later ih => rw [pieces_bare named ends, ih]; rfl
  | dollar alone later ih => rw [pieces_dollar alone, ih]; rfl
  | plain notDollar unescaped later ih => rw [pieces_plain notDollar unescaped, ih]; rfl

/-- A template is read from a value by way of its pieces. -/
theorem parse_ok_iff_reading (value : String) (template : Template) :
    Template.parse value = .ok template ↔
      ∃ parts, Reading value.toList parts ∧ template = ofPieces parts := by
  constructor
  · intro parsed
    obtain ⟨parts, found, same⟩ := ok_of_map parsed
    exact ⟨parts, reading_of_pieces found, same.symm⟩
  · rintro ⟨parts, reading, rfl⟩
    simp only [Template.parse, pieces_of_reading reading 0]
    rfl

/-! ## The form of what is read -/

/-- A piece as it is written. -/
def writePiece : Piece → List Char
  | .char c => if c = '$' then ['\\', '$'] else [c]
  | .marker name => '$' :: '{' :: (name ++ ['}'])

/-- Pieces with markers that can be written, none of them right behind a backslash. -/
def Separate : List Piece → Prop
  | [] => True
  | .char c :: rest => (c = '\\' → ∀ name, rest.head? ≠ some (.marker name)) ∧ Separate rest
  | .marker name :: rest => name ≠ [] ∧ '}' ∉ name ∧ Separate rest

theorem separate_of_reading (reading : Reading value parts) : Separate parts := by
  induction reading with
  | done => trivial
  | escaped later ih => exact ⟨by simp, ih⟩
  | braced nonempty closes later ih => exact ⟨nonempty, closes, ih⟩
  | bare named ends later ih =>
    refine ⟨List.cons_ne_nil _ _, fun member => ?_, ih⟩
    have isName := named _ member
    cases isName
  | dollar alone later ih => exact ⟨by simp, ih⟩
  | @plain c rest parts notDollar unescaped later ih =>
    refine ⟨fun isBackslash name starts => ?_, ih⟩
    -- what is read as a marker starts with a dollar sign, which the backslash would have escaped
    have apart := unescaped isBackslash
    cases later with
    | braced nonempty closes later => simp at apart
    | bare named ends later => simp at apart
    | _ => cases starts

/-- Pieces are read from what they are written as. -/
theorem reading_write (separate : Separate parts) : Reading (parts.flatMap writePiece) parts := by
  induction parts with
  | nil => exact .done
  | cons part rest ih =>
    cases part with
    | char c =>
      obtain ⟨apart, separate⟩ := separate
      by_cases isDollar : c = '$'
      · subst isDollar
        exact .escaped (ih separate)
      · have written : (Piece.char c :: rest).flatMap writePiece = c :: rest.flatMap writePiece := by
          simp [writePiece, isDollar]
        rw [written]
        refine .plain isDollar (fun isBackslash starts => ?_) (ih separate)
        cases rest with
        | nil => cases starts
        | cons next rest =>
          cases next with
          | char other =>
            by_cases escaped : other = '$' <;> simp [writePiece, escaped] at starts
          | marker name => exact apart isBackslash name rfl
    | marker name =>
      obtain ⟨nonempty, closes, separate⟩ := separate
      simpa [writePiece] using Reading.braced nonempty closes (ih separate)

/-- What may stand behind a text: nothing, or a marker unless the text ends in a backslash. -/
def MayFollow (content : String) : Option Segment → Prop
  | none => True
  | some (.text _) => False
  | some (.marker _) => content.toList.getLast? ≠ some '\\'

/-- Segments of which no text is empty or next to another one, names are such as braces can hold, and
no text that ends in a backslash stands right before a marker. -/
def Canonical : List Segment → Prop
  | [] => True
  | .text content :: rest => content ≠ "" ∧ MayFollow content rest.head? ∧ Canonical rest
  | .marker name :: rest => name ≠ "" ∧ '}' ∉ name.toList ∧ Canonical rest

/-- The pieces of a segment. -/
def spread : Segment → List Piece
  | .text content => content.toList.map .char
  | .marker name => [.marker name.toList]

theorem write_spread (segments : List Segment) :
    (segments.flatMap spread).flatMap writePiece = segments.flatMap writeSegment := by
  induction segments with
  | nil => rfl
  | cons segment rest ih =>
    rw [List.flatMap_cons, List.flatMap_append, ih, List.flatMap_cons]
    cases segment with
    | text content => simp [spread, writeSegment, writePiece, List.flatMap_map]
    | marker name => simp [spread, writeSegment, writePiece]

variable {segments : List Segment} {parts : List Piece} {run : List Char}

theorem gather_chars (run : List Char) (parts : List Piece) :
    gather (run.map .char ++ parts) = (run ++ (gather parts).1, (gather parts).2) := by
  induction run with
  | nil => rfl
  | cons c run ih => simp [gather, ih]

theorem gather_of_may_follow (follows : MayFollow content segments.head?) :
    (gather (segments.flatMap spread)).1 = [] := by
  cases segments with
  | nil => rfl
  | cons segment rest =>
    cases segment with
    | text other => exact follows.elim
    | marker name => rfl

/-- Gathering the pieces of canonical segments gives the segments back. -/
theorem gather_spread (canonical : Canonical segments) :
    pushText (gather (segments.flatMap spread)).1 (gather (segments.flatMap spread)).2 =
      segments := by
  induction segments with
  | nil => rfl
  | cons segment rest ih =>
    cases segment with
    | text content =>
      obtain ⟨nonempty, follows, canonical⟩ := canonical
      have kept := ih canonical
      rw [gather_of_may_follow follows] at kept
      have same : (gather (rest.flatMap spread)).2 = rest := kept
      have filled : content.toList ≠ [] := by simpa using nonempty
      simp only [List.flatMap_cons, spread, gather_chars, gather_of_may_follow follows, same]
      simp [pushText, filled]
    | marker name =>
      obtain ⟨_, _, canonical⟩ := canonical
      have kept := ih canonical
      simp only [List.flatMap_cons, spread, List.cons_append, List.nil_append, gather, kept]
      simp [pushText]

theorem spread_pushText (run : List Char) (segments : List Segment) :
    (pushText run segments).flatMap spread = run.map .char ++ segments.flatMap spread := by
  cases run with
  | nil => rfl
  | cons c run => simp [pushText, spread]

/-- Gathering loses nothing. -/
theorem spread_gather (parts : List Piece) :
    (pushText (gather parts).1 (gather parts).2).flatMap spread = parts := by
  rw [spread_pushText]
  induction parts with
  | nil => rfl
  | cons part rest ih =>
    cases part with
    | char c => exact congrArg (.char c :: ·) ih
    | marker name => simpa [gather, spread, spread_pushText] using ih

theorem separate_chars (separate : Separate parts)
    (apart : run.getLast? = some '\\' → ∀ name, parts.head? ≠ some (.marker name)) :
    Separate (run.map .char ++ parts) := by
  induction run with
  | nil => exact separate
  | cons c run ih =>
    cases run with
    | nil => exact ⟨fun isBackslash => apart (by rw [isBackslash]; rfl), separate⟩
    | cons next run => exact ⟨by simp, ih apart⟩

theorem separate_spread (canonical : Canonical segments) :
    Separate (segments.flatMap spread) := by
  induction segments with
  | nil => trivial
  | cons segment rest ih =>
    cases segment with
    | text content =>
      obtain ⟨_, follows, canonical⟩ := canonical
      refine separate_chars (ih canonical) fun ends name starts => ?_
      cases rest with
      | nil => cases starts
      | cons next rest =>
        cases next with
        | text other => exact follows
        | marker other => exact follows ends
    | marker name =>
      obtain ⟨nonempty, closes, canonical⟩ := canonical
      exact ⟨by simpa using nonempty, closes, ih canonical⟩

theorem canonical_pushText (canonical : Canonical segments)
    (follows : MayFollow (String.ofList run) segments.head?) : Canonical (pushText run segments) := by
  cases run with
  | nil => exact canonical
  | cons c run => exact ⟨by simp, follows, canonical⟩

/-- What is gathered from separate pieces is canonical behind the text at its front, and may follow
that text. -/
theorem canonical_gather (separate : Separate parts) :
    Canonical (gather parts).2 ∧ MayFollow (String.ofList (gather parts).1) (gather parts).2.head? := by
  induction parts with
  | nil => exact ⟨trivial, trivial⟩
  | cons part rest ih =>
    cases part with
    | char c =>
      obtain ⟨apart, separate⟩ := separate
      obtain ⟨canonical, follows⟩ := ih separate
      refine ⟨canonical, ?_⟩
      cases rest with
      | nil => trivial
      | cons next rest =>
        cases next with
        | char other =>
          -- the text ends as it did without the character in front
          simp only [gather] at follows ⊢
          cases ends : (gather rest).2.head? with
          | none => trivial
          | some segment =>
            rw [ends] at follows
            cases segment with
            | text content => exact follows
            | marker name => simpa [MayFollow] using follows
        | marker name =>
          have other : c ≠ '\\' := fun isBackslash => apart isBackslash name rfl
          simpa [gather, MayFollow] using other
    | marker name =>
      obtain ⟨nonempty, closes, separate⟩ := separate
      obtain ⟨canonical, follows⟩ := ih separate
      have later := canonical_pushText canonical follows
      exact ⟨⟨by simpa using nonempty, by simpa using closes, later⟩, by simp [gather, MayFollow]⟩

/-! ## Reading back -/

theorem canonical_of_parse (parsed : Template.parse value = .ok template) :
    Canonical template.segments := by
  obtain ⟨parts, reading, rfl⟩ := (parse_ok_iff_reading value template).1 parsed
  obtain ⟨canonical, follows⟩ := canonical_gather (separate_of_reading reading)
  exact canonical_pushText canonical follows

theorem parse_write_of_canonical (canonical : Canonical template.segments) :
    Template.parse template.write = .ok template := by
  refine (parse_ok_iff_reading _ _).2 ⟨template.segments.flatMap spread, ?_, ?_⟩
  · rw [Template.write, String.toList_ofList, ← write_spread]
    exact reading_write (separate_spread canonical)
  · exact congrArg Template.mk (gather_spread canonical).symm

end ServerIncludes.TemplateWriting
