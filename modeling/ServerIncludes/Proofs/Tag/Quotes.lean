import ServerIncludes.Proofs.Condition.Lexing
import ServerIncludes.Proofs.Document.Scanning

/-! Quotes in tags, character by character. Whether an octet stands inside quotes can be told from the
characters in front of it: no octet of a character outside ASCII is a quote or a backslash, and a
backslash that protects the first octet of a character protects all of it. A tag without `>` outside
its quotes ends where it seems to. -/
namespace ServerIncludes.TagQuotes

open ConditionLexing (Delimited)
open Fragment (opener closer quoteMark backslash)
open Fragments (scan)
open Scanning

/-! ## Octets -/

theorem text_of_chars (text : List Char) :
    Bytes.text? (Bytes.ofChars text) = some (String.ofList text) := dif_pos ⟨text, rfl⟩

theorem utf8_of_ascii (ascii : c.toNat < 128) :
    String.utf8EncodeChar c = [UInt8.ofNat c.toNat] := by
  have within : c.val.toNat ≤ 127 := Nat.le_of_lt_succ ascii
  simp only [String.utf8EncodeChar, within, if_true]
  rfl

/-- Of two characters that are single octets, different ones are different octets. -/
theorem octet_eq_iff {c d : Char} (ascii : c.toNat < 128) (other : d.toNat < 128) :
    UInt8.ofNat c.toNat = UInt8.ofNat d.toNat ↔ c = d := by
  refine ⟨fun same => ?_, congrArg fun e : Char => UInt8.ofNat e.toNat⟩
  have code := congrArg UInt8.toNat same
  have size : UInt8.size = 256 := rfl
  rw [UInt8.toNat_ofNat_of_lt' (by omega), UInt8.toNat_ofNat_of_lt' (by omega)] at code
  exact Char.toNat_inj.1 code

theorem utf8_of_not_ascii (other : ¬ c.toNat < 128) :
    ∀ octet ∈ String.utf8EncodeChar c, 128 ≤ octet.toNat := by
  have beyond : ¬ c.val.toNat ≤ 127 := fun within => other (Nat.lt_succ_of_le within)
  intro octet member
  simp only [String.utf8EncodeChar, beyond, if_false] at member
  split at member
  · simp at member
    rcases member with rfl | rfl <;> simp <;> omega
  · split at member
    · simp at member
      rcases member with rfl | rfl | rfl <;> simp <;> omega
    · simp at member
      rcases member with rfl | rfl | rfl | rfl <;> simp <;> omega

theorem plain_of_high {octet : UInt8} (high : 128 ≤ octet.toNat) :
    octet ≠ quoteMark ∧ octet ≠ backslash := by
  constructor <;>
    · rintro rfl
      exact absurd high (by decide)

/-! ## Characters -/

/-- Goes past one character. -/
def readChar : QuoteState → Char → QuoteState
  | .outside, c => if c = '"' then .inside else .outside
  | .inside, c => if c = '\\' then .escaped else if c = '"' then .outside else .inside
  | .escaped, _ => .inside

/-- Where a reader stands who has gone through some characters. -/
def afterChars (state : QuoteState) (text : List Char) : QuoteState := text.foldl readChar state

@[simp] theorem after_chars_nil (state : QuoteState) : afterChars state [] = state := rfl

@[simp] theorem after_chars_cons (state : QuoteState) (c : Char) (text : List Char) :
    afterChars state (c :: text) = afterChars (readChar state c) text := rfl

theorem after_chars_append (state : QuoteState) (front rest : List Char) :
    afterChars state (front ++ rest) = afterChars (afterChars state front) rest :=
  List.foldl_append

/-- Octets that are neither quotes nor backslashes leave a reader inside quotes or outside of them. -/
theorem after_plain {octets : Bytes}
    (plain : ∀ octet ∈ octets, octet ≠ quoteMark ∧ octet ≠ backslash) (unescaped : state ≠ .escaped) :
    QuoteState.after state octets = state := by
  induction octets with
  | nil => rfl
  | cons octet rest ih =>
    obtain ⟨⟨notQuote, notBackslash⟩, plain⟩ := List.forall_mem_cons.1 plain
    have same : state.read octet = state := by
      cases state with
      | outside => simp [QuoteState.read, notQuote]
      | inside => simp [QuoteState.read, notQuote, notBackslash]
      | escaped => exact absurd rfl unescaped
    rw [QuoteState.after_cons, same, ih plain]

/-- The octets of a character are gone through as the character is. -/
theorem after_utf8 (state : QuoteState) (c : Char) :
    state.after (String.utf8EncodeChar c) = readChar state c := by
  by_cases ascii : c.toNat < 128
  · have quote : UInt8.ofNat c.toNat = quoteMark ↔ c = '"' := octet_eq_iff (d := '"') ascii (by decide)
    have slash : UInt8.ofNat c.toNat = backslash ↔ c = '\\' :=
      octet_eq_iff (d := '\\') ascii (by decide)
    rw [utf8_of_ascii ascii]
    cases state <;> simp [QuoteState.read, readChar, quote, slash]
  · have plain : ∀ octet ∈ String.utf8EncodeChar c, octet ≠ quoteMark ∧ octet ≠ backslash :=
      fun octet member => plain_of_high (utf8_of_not_ascii ascii octet member)
    have notQuote : c ≠ '"' := by
      rintro rfl
      exact ascii (by decide)
    have notBackslash : c ≠ '\\' := by
      rintro rfl
      exact ascii (by decide)
    cases state with
    | outside => simp [after_plain plain, readChar, notQuote]
    | inside => simp [after_plain plain, readChar, notQuote, notBackslash]
    | escaped =>
      cases octets : String.utf8EncodeChar c with
      | nil => exact absurd octets String.utf8EncodeChar_ne_nil
      | cons octet rest =>
        rw [octets] at plain
        have unescaped : QuoteState.inside ≠ .escaped := by decide
        exact after_plain (fun octet member => plain octet (.tail _ member)) unescaped

/-- The octets of a text are gone through as its characters are. -/
theorem after_of_chars (state : QuoteState) (text : List Char) :
    state.after (Bytes.ofChars text) = afterChars state text := by
  induction text generalizing state with
  | nil => rfl
  | cons c rest ih =>
    have split : Bytes.ofChars (c :: rest) = String.utf8EncodeChar c ++ Bytes.ofChars rest := rfl
    rw [split, QuoteState.after, List.foldl_append, ← QuoteState.after, ← QuoteState.after,
      after_utf8, ih, after_chars_cons]

/-! ## Inside and outside of values -/

/-- A text without quotes that is not in quotes leaves no quote open. -/
theorem outside_of_plain {text : List Char} (plain : '"' ∉ text) :
    afterChars .outside text = .outside := by
  induction text with
  | nil => rfl
  | cons c rest ih =>
    have notQuote : c ≠ '"' := (List.ne_of_not_mem_cons plain).symm
    simp [readChar, notQuote, ih (List.not_mem_of_not_mem_cons plain)]

/-- A text that a quote ends where it stands behind it is inside quotes up to there. -/
theorem inside_of_delimited (delimited : Delimited '"' text) :
    afterChars .inside text = .inside := by
  induction delimited with
  | nil => rfl
  | escaped later ih => exact ih
  | plain notQuote notBackslash later ih => simpa [readChar, notQuote, notBackslash] using ih

/-! ## The end of a tag -/

/-- Outside of quotes no octet is a `>`, with which each closer ends. -/
def Clear : QuoteState → Bytes → Prop
  | _, [] => True
  | state, octet :: rest => (state = .outside → octet ≠ 0x3E) ∧ Clear (state.read octet) rest

/-- Outside of quotes no character is a `>`. -/
def ClearChars : QuoteState → List Char → Prop
  | _, [] => True
  | state, c :: rest => (state = .outside → c ≠ '>') ∧ ClearChars (readChar state c) rest

theorem clear_append (first : Clear state front) (second : Clear (state.after front) rest) :
    Clear state (front ++ rest) := by
  induction front generalizing state with
  | nil => exact second
  | cons octet front ih => exact ⟨first.1, ih first.2 second⟩

theorem clear_of_free {octets : Bytes} (free : 0x3E ∉ octets) : Clear state octets := by
  induction octets generalizing state with
  | nil => trivial
  | cons octet rest ih =>
    exact ⟨fun _ => (List.ne_of_not_mem_cons free).symm, ih (List.not_mem_of_not_mem_cons free)⟩

theorem clear_utf8 {c : Char} (other : state = .outside → c ≠ '>') :
    Clear state (String.utf8EncodeChar c) := by
  by_cases ascii : c.toNat < 128
  · rw [utf8_of_ascii ascii]
    exact ⟨fun outside same => other outside ((octet_eq_iff ascii (by decide)).1 same), trivial⟩
  · refine clear_of_free fun member => ?_
    exact absurd (utf8_of_not_ascii ascii _ member) (by decide)

theorem clear_of_chars (clear : ClearChars state text) : Clear state (Bytes.ofChars text) := by
  induction text generalizing state with
  | nil => trivial
  | cons c rest ih =>
    obtain ⟨other, clear⟩ := clear
    exact clear_append (clear_utf8 other) (after_utf8 state c ▸ ih clear)

theorem clear_chars_append (first : ClearChars state front)
    (second : ClearChars (afterChars state front) rest) : ClearChars state (front ++ rest) := by
  induction front generalizing state with
  | nil => exact second
  | cons c front ih => exact ⟨first.1, ih first.2 second⟩

theorem clear_chars_of_free {text : List Char} (free : '>' ∉ text) : ClearChars state text := by
  induction text generalizing state with
  | nil => trivial
  | cons c rest ih =>
    exact ⟨fun _ => (List.ne_of_not_mem_cons free).symm, ih (List.not_mem_of_not_mem_cons free)⟩

/-- A value between quotes may hold every character. -/
theorem clear_of_delimited (delimited : Delimited '"' text) : ClearChars .inside text := by
  induction delimited with
  | nil => trivial
  | escaped later ih => exact ⟨nofun, nofun, ih⟩
  | plain notQuote notBackslash later ih =>
    refine ⟨nofun, ?_⟩
    simpa [readChar, notQuote, notBackslash] using ih

/-- A closer that starts in a clear text would have to end in it, or in the hyphens behind it. -/
theorem not_closes_of_clear (clear : Clear state body) (after : Bytes) :
    ∀ earlier < body.length, ¬ ClosesFrom state (body ++ closer ++ after) earlier := by
  induction body generalizing state with
  | nil => exact nofun
  | cons octet rest ih =>
    intro earlier before closes
    cases earlier with
    | succ earlier =>
      exact ih clear.2 earlier (Nat.lt_of_succ_lt_succ before) ((closes_from_succ ..).1 closes)
    | zero =>
      obtain ⟨starts, rfl⟩ := (closes_from_zero ..).1 closes
      cases rest with
      | nil => simp [closer] at starts
      | cons second rest =>
        cases rest with
        | nil => simp [closer] at starts
        | cons third rest =>
          simp only [closer, List.cons_append, List.cons_prefix_cons] at starts
          obtain ⟨rfl, rfl, rfl, -⟩ := starts
          exact clear.2.2.1 rfl rfl

/-- Texts that a closer can stand behind: no quote is left open, and no closer comes earlier. -/
structure Closed (text : List Char) : Prop where
  clear : ClearChars .outside text
  outside : afterChars .outside text = .outside

theorem closed_plain {text : List Char} (noQuote : '"' ∉ text) (noBracket : '>' ∉ text) :
    Closed text := ⟨clear_chars_of_free noBracket, outside_of_plain noQuote⟩

theorem closed_append (first : Closed front) (second : Closed rest) : Closed (front ++ rest) := by
  refine ⟨clear_chars_append first.clear ?_, ?_⟩
  · rw [first.outside]
    exact second.clear
  · rw [after_chars_append, first.outside, second.outside]

theorem closed_quoted (delimited : Delimited '"' content) : Closed ('"' :: (content ++ ['"'])) := by
  have opened : ClearChars .inside (content ++ ['"']) := by
    refine clear_chars_append (clear_of_delimited delimited) ?_
    rw [inside_of_delimited delimited]
    exact ⟨nofun, trivial⟩
  refine ⟨⟨fun _ => by decide, opened⟩, ?_⟩
  have inside : readChar .outside '"' = .inside := rfl
  rw [after_chars_cons, inside, after_chars_append, inside_of_delimited delimited]
  rfl

theorem closed_flatMap {pieces : α → List Char} {list : List α}
    (closed : ∀ item ∈ list, Closed (pieces item)) : Closed (list.flatMap pieces) := by
  induction list with
  | nil => exact ⟨trivial, rfl⟩
  | cons item rest ih =>
    obtain ⟨first, closed⟩ := List.forall_mem_cons.1 closed
    exact closed_append first (ih closed)

/-- A closed text ends as a tag at the closer behind it, whatever the document goes on with. -/
theorem first_closer_of_closed (closed : Closed text) (after : Bytes) :
    FirstCloser (Bytes.ofChars text ++ closer ++ after) (Bytes.ofChars text).length := by
  refine ⟨⟨?_, ?_⟩, not_closes_of_clear (clear_of_chars closed.clear) after⟩
  · rw [List.append_assoc, List.drop_left]
    exact List.prefix_append ..
  · rw [List.append_assoc, List.take_left, after_of_chars, closed.outside]

/-- Between an opener and a closer, a closed text is a tag by itself. -/
theorem scan_closed (closed : Closed text) (after : Bytes) :
    scan (opener ++ (Bytes.ofChars text ++ closer ++ after)) =
      (scan after).push (.tag (Bytes.ofChars text)) := by
  rw [scan_opener, split_of_first_closer (first_closer_of_closed closed after)]

end ServerIncludes.TagQuotes
