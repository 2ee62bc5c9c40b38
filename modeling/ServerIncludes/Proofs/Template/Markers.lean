import ServerIncludes.Proofs.Condition.Lexing
import ServerIncludes.Proofs.Template.Writing

/-! Where a marker stands that cannot be read. In the content of a quoted text it is reported at its
place in what the text says, which is not where it is written if a backslash before it was left
out. -/
namespace ServerIncludes.MarkerFaults

open ConditionLexing (Delimited)
open Lexeme (unescape)
open Parts
open Template (isNameChar pieces)

theorem utf8_length_append (front rest : List Char) :
    utf8Length (front ++ rest) = utf8Length front + utf8Length rest := by
  induction front with
  | nil => rw [List.nil_append, utf8Length, Nat.zero_add]
  | cons c front ih => rw [List.cons_append, utf8Length, ih, utf8Length, Nat.add_assoc]

theorem utf8_length_braced (name : List Char) :
    utf8Length ('$' :: '{' :: (name ++ ['}'])) = 3 + utf8Length name := by
  have length : utf8Length ('$' :: '{' :: (name ++ ['}'])) = 1 + (1 + (utf8Length name + 1)) := by
    rw [utf8Length, utf8Length, utf8_length_append]
    rfl
  omega

theorem length_of_chars (text : List Char) : (Bytes.ofChars text).length = utf8Length text := by
  induction text with
  | nil => rfl
  | cons c rest ih =>
    have split : Bytes.ofChars (c :: rest) = String.utf8EncodeChar c ++ Bytes.ofChars rest := rfl
    rw [split, List.length_append, ih, String.length_utf8EncodeChar, utf8Length]

theorem utf8_length_toList (text : String) : utf8Length text.toList = text.utf8ByteSize := by
  rw [← length_of_chars, ← List.size_toByteArray]
  exact congrArg ByteArray.size String.utf8Encode_toList

/-- What stands behind a dollar sign and a brace that begin no marker. -/
inductive Unreadable : MarkerFault → List Char → Prop where
  | unclosed (open_ : '}' ∉ rest) : Unreadable .unclosed rest
  | empty : Unreadable .empty ('}' :: rest)

/-- A text does not end in a backslash. -/
def EndsPlain (text : List Char) : Prop := text.getLast? ≠ some '\\'

instance (text : List Char) : Decidable (EndsPlain text) := inferInstanceAs (Decidable (¬ _))

theorem ends_plain_of_cons (plain : EndsPlain (c :: text)) : EndsPlain text := by
  cases text with
  | nil => nofun
  | cons first text => rwa [EndsPlain, List.getLast?_cons_cons] at plain

theorem ends_plain_of_append (front : List Char) (plain : EndsPlain (front ++ text)) :
    EndsPlain text := by
  induction front with
  | nil => exact plain
  | cons c front ih => exact ih (ends_plain_of_cons plain)

/-- An error is that of a marker in a value, and tells where its dollar sign stands. No backslash
stands before that. -/
def Located (error : MarkerError) (position : Nat) (value : List Char) : Prop :=
  ∃ front rest, value = front ++ '$' :: '{' :: rest ∧ EndsPlain front ∧
    Unreadable error.fault rest ∧ error.position = position + utf8Length front

theorem located_here (unread : Unreadable fault rest) (position : Nat) :
    Located ⟨fault, position⟩ position ('$' :: '{' :: rest) :=
  ⟨[], rest, rfl, nofun, unread, rfl⟩

/-- A marker that cannot be read stands behind what can. -/
theorem located_behind (passed : List Char) (located : Located error reached rest)
    (here : reached = position + utf8Length passed)
    (apart : EndsPlain passed ∨ rest.head? ≠ some '$') :
    Located error position (passed ++ rest) := by
  obtain ⟨front, rest, rfl, plain, unread, place⟩ := located
  refine ⟨passed ++ front, rest, (List.append_assoc ..).symm, ?_, unread, ?_⟩
  · cases last : front.getLast? with
    | none =>
      have nothing : front = [] := List.getLast?_eq_none_iff.1 last
      rw [nothing, List.append_nil]
      exact apart.resolve_right (by simp [nothing])
    | some c =>
      rw [EndsPlain, last] at plain
      rwa [EndsPlain, List.getLast?_append, last]
  · rw [place, here, utf8_length_append, Nat.add_assoc]

theorem located_of_pieces (failed : pieces position value = .error error) :
    Located error position value := by
  fun_induction pieces position value with
  | case1 => cases failed
  | case2 position rest ih =>
    exact located_behind ['\\', '$'] (ih (error_of_map failed)) rfl (.inl (by decide))
  | case3 position rest nothing =>
    cases failed
    have open_ : '}' ∉ rest := fun member => by
      simpa using List.dropWhile_eq_nil_iff.1 nothing '}' member
    exact located_here (.unclosed open_) position
  | case4 position rest name head after split shorter empty =>
    cases failed
    have whole := split_at_stop split
    have same : rest.takeWhile (· != '}') = [] := List.isEmpty_iff.1 empty
    rw [same, List.nil_append] at whole
    rw [whole]
    exact located_here .empty position
  | case5 position rest name head after split shorter nonempty =>
    rename_i ih
    have here : position + 3 + utf8Length name =
        position + utf8Length ('$' :: '{' :: (name ++ ['}'])) := by
      rw [utf8_length_braced, Nat.add_assoc]
    have behind := located_behind ('$' :: '{' :: (name ++ ['}'])) (ih (error_of_map failed)) here
      (.inl (by simp [EndsPlain, List.getLast?_cons]))
    rw [split_at_stop split]
    simpa using behind
  | case6 position c rest notBrace isName name shorter =>
    rename_i ih
    have plain : EndsPlain ('$' :: name) := by
      intro last
      have member : '\\' ∈ '$' :: c :: rest.takeWhile isNameChar := List.mem_of_getLast? last
      have inside : ∀ other ∈ '$' :: c :: rest.takeWhile isNameChar,
          other = '$' ∨ isNameChar other = true := by
        refine List.forall_mem_cons.2 ⟨.inl rfl, List.forall_mem_cons.2 ⟨.inr isName, ?_⟩⟩
        exact fun other member => .inr (List.mem_takeWhile_imp member)
      exact absurd (inside _ member) (by decide)
    have behind := located_behind ('$' :: name) (ih (error_of_map failed)) (Nat.add_assoc ..)
      (.inl plain)
    simpa [name] using behind
  | case7 position c rest notBrace notName ih =>
    exact located_behind ['$'] (ih (error_of_map failed)) rfl (.inl (by decide))
  | case8 position c rest notEscaped notBraced notDollar ih =>
    refine located_behind [c] (ih (error_of_map failed)) rfl ?_
    by_cases isBackslash : c = '\\'
    · refine .inr fun starts => ?_
      obtain ⟨after, rfl⟩ := List.head?_eq_some_iff.1 starts
      exact notEscaped after isBackslash rfl
    · exact .inl (by simpa [EndsPlain] using isBackslash)

/-! ## Texts between quotes -/

section

variable {drops : Char → Bool}

/-- A character that is no backslash, and is not left without one, is found where it is written. -/
theorem head_of_unescape (other : d ≠ '\\') (kept : drops d = false)
    (same : unescape drops body = d :: rest) :
    ∃ after, body = d :: after ∧ unescape drops after = rest := by
  fun_induction unescape drops body with
  | case1 => cases same
  | case2 =>
    cases same
    exact absurd rfl other
  | case3 next after dropped =>
    cases same
    rw [dropped] at kept
    cases kept
  | case4 =>
    cases same
    exact absurd rfl other
  | case5 c after notBackslash =>
    cases same
    exact ⟨after, rfl, rfl⟩

theorem mem_unescape (other : d ≠ '\\') (member : d ∈ body) : d ∈ unescape drops body := by
  fun_induction unescape drops body with
  | case1 => exact member
  | case2 => exact member
  | case3 next after dropped ih =>
    rcases List.mem_cons.1 ((List.mem_cons.1 member).resolve_left other) with here | later
    · exact List.mem_cons.2 (.inl here)
    · exact .tail _ (ih later)
  | case4 next after notDropped ih =>
    rcases List.mem_cons.1 ((List.mem_cons.1 member).resolve_left other) with here | later
    · exact .tail _ (List.mem_cons.2 (.inl here))
    · exact .tail _ (.tail _ (ih later))
  | case5 c after notBackslash ih =>
    rcases List.mem_cons.1 member with here | later
    · exact List.mem_cons.2 (.inl here)
    · exact .tail _ (ih later)

theorem length_unescape_le (drops : Char → Bool) (body : List Char) :
    utf8Length (unescape drops body) ≤ utf8Length body := by
  fun_induction unescape drops body with
  | case1 => exact Nat.le_refl _
  | case2 => exact Nat.le_refl _
  | case3 next after dropped ih =>
    simp only [utf8Length]
    omega
  | case4 next after notDropped ih =>
    simp only [utf8Length]
    omega
  | case5 c after notBackslash ih =>
    simp only [utf8Length]
    omega

/-- The dollar sign of a marker in the content of a text is that of a marker in the text: no backslash
before it was left out, since that would have taken it along. -/
theorem marker_of_unescape (dollar : drops '$' = false) (brace : drops '{' = false)
    (same : unescape drops body = front ++ '$' :: '{' :: rest) (plain : EndsPlain front) :
    ∃ before after, body = before ++ '$' :: '{' :: after ∧ unescape drops before = front ∧
      unescape drops after = rest := by
  fun_induction unescape drops body generalizing front with
  | case1 => simp at same
  | case2 =>
    cases front with
    | nil => cases same
    | cons first front => simp at same
  | case3 next after dropped ih =>
    cases front with
    | nil =>
      have isDollar : next = '$' := (List.cons.inj same).1
      rw [isDollar, dollar] at dropped
      cases dropped
    | cons first front =>
      obtain ⟨here, later⟩ := List.cons.inj same
      subst here
      obtain ⟨before, after, rfl, found, left⟩ := ih later (ends_plain_of_cons plain)
      refine ⟨'\\' :: next :: before, after, rfl, ?_, left⟩
      rw [unescape]
      simp [dropped, found]
  | case4 next after notDropped ih =>
    cases front with
    | nil => cases same
    | cons first front =>
      obtain ⟨here, later⟩ := List.cons.inj same
      subst here
      cases front with
      | nil => exact absurd rfl plain
      | cons second front =>
        obtain ⟨isNext, last⟩ := List.cons.inj later
        subst isNext
        obtain ⟨before, after, rfl, found, left⟩ :=
          ih last (ends_plain_of_cons (ends_plain_of_cons plain))
        refine ⟨'\\' :: next :: before, after, rfl, ?_, left⟩
        rw [unescape]
        simp [notDropped, found]
  | case5 c after notBackslash ih =>
    cases front with
    | nil =>
      obtain ⟨here, later⟩ := List.cons.inj same
      subst here
      obtain ⟨after, rfl, left⟩ := head_of_unescape (by decide) brace later
      exact ⟨[], after, rfl, rfl, left⟩
    | cons first front =>
      obtain ⟨here, later⟩ := List.cons.inj same
      subst here
      obtain ⟨before, after, rfl, found, left⟩ := ih later (ends_plain_of_cons plain)
      refine ⟨c :: before, after, rfl, ?_, left⟩
      rw [Lexeme.unescape.eq_def]
      simp [notBackslash, found]

theorem unreadable_of_unescape (brace : drops '}' = false)
    (unread : Unreadable fault (unescape drops after)) : Unreadable fault after := by
  generalize same : unescape drops after = rest at unread
  cases unread with
  | unclosed open_ =>
    refine .unclosed fun member => open_ ?_
    rw [← same]
    exact mem_unescape (by decide) member
  | empty =>
    obtain ⟨later, rfl, _⟩ := head_of_unescape (by decide) brace same
    exact .empty

end

end ServerIncludes.MarkerFaults
