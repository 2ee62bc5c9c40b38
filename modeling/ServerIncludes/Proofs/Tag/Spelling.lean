import ServerIncludes.Proofs.Tag.Quotes
import ServerIncludes.Proofs.Tag.Writing

/-! The written forms of tags: a name, attributes and blanks wherever the parts allow them. A tag is
read from its forms and from nothing else. Each form between an opener and a closer is a tag of its
document by itself, whatever stands behind it, and values of which the quotes are escaped are read
back as they were. What tags are written as is one of their forms. -/
namespace ServerIncludes.TagSpelling

open ConditionLexing (Delimited)
open Fragment (opener closer)
open Fragments (scan)
open Parts Scanning TagQuotes TagWriting
open Tag (isAttributeChar lower readValue readAttribute readAttributes)
open Unicode (isBlank)

/-! ## Forms -/

/-- What stands between the quotes of a value, and the value: a backslash takes the next character
with it, and in front of a quote it is left out. -/
inductive SpellsValue : List Char → List Char → Prop where
  | nil : SpellsValue [] []
  | quote (later : SpellsValue content value) :
    SpellsValue ('\\' :: '"' :: content) ('"' :: value)
  | pair (notQuote : c ≠ '"') (later : SpellsValue content value) :
    SpellsValue ('\\' :: c :: content) ('\\' :: c :: value)
  | plain (notQuote : c ≠ '"') (notBackslash : c ≠ '\\') (later : SpellsValue content value) :
    SpellsValue (c :: content) (c :: value)

/-- The parts of an attribute in the order in which they are written, blanks included. -/
structure AttributeForm where
  gap : List Char
  name : List Char
  beforeEquals : List Char
  afterEquals : List Char
  /-- What stands between the quotes. -/
  content : List Char
  deriving DecidableEq

namespace AttributeForm

/-- The attribute without the blanks in front of it. -/
def core (form : AttributeForm) : List Char :=
  form.name ++ (form.beforeEquals ++ '=' :: (form.afterEquals ++ '"' :: (form.content ++ ['"'])))

def text (form : AttributeForm) : List Char := form.gap ++ form.core

/-- The attribute up to the quote that opens its value. -/
def opening (form : AttributeForm) : List Char :=
  form.gap ++ (form.name ++ (form.beforeEquals ++ '=' :: (form.afterEquals ++ ['"'])))

/-- Blanks are blanks, and the name is one. It ends with the last character that can belong to it,
since a blank or an equals sign follows. -/
structure Proper (form : AttributeForm) : Prop where
  gap : ∀ c ∈ form.gap, isBlank c = true
  nonempty : form.name ≠ []
  named : ∀ c ∈ form.name, isAttributeChar c = true
  beforeEquals : ∀ c ∈ form.beforeEquals, isBlank c = true
  afterEquals : ∀ c ∈ form.afterEquals, isBlank c = true

/-- The name without regard to case, and the value. -/
structure Spells (form : AttributeForm) (item : Attribute) : Prop where
  named : item.name = lower form.name
  valued : SpellsValue form.content item.value.toList

/-- The attribute with a backslash in front of each quote of its content. -/
def escape (form : AttributeForm) : AttributeForm :=
  { form with content := writeValue form.content }

end AttributeForm

/-- The parts of a tag in the order in which they are written, blanks included. -/
structure TagForm where
  front : List Char
  name : List Char
  attributes : List AttributeForm
  back : List Char
  deriving DecidableEq

namespace TagForm

/-- What stands behind the name. -/
def tail (form : TagForm) : List Char := form.attributes.flatMap AttributeForm.text ++ form.back

def text (form : TagForm) : List Char := form.front ++ (form.name ++ form.tail)

/-- Blanks are blanks and names are names, that of the tag up to the last letter that follows. -/
structure Proper (form : TagForm) : Prop where
  front : ∀ c ∈ form.front, isBlank c = true
  nonempty : form.name ≠ []
  named : ∀ c ∈ form.name, c.isAlpha = true
  ends : ∀ c ∈ form.tail.head?, c.isAlpha = false
  attributes : ∀ item ∈ form.attributes, item.Proper
  back : ∀ c ∈ form.back, isBlank c = true

structure Spells (form : TagForm) (tag : Tag) : Prop where
  named : tag.name = lower form.name
  attributes : List.Forall₂ AttributeForm.Spells form.attributes tag.attributes

/-- The tag with a backslash in front of each quote of its values. -/
def escape (form : TagForm) : TagForm :=
  { form with attributes := form.attributes.map AttributeForm.escape }

/-- What the form stands for if its contents are the values themselves. -/
def meant (form : TagForm) : Tag :=
  ⟨lower form.name, form.attributes.map fun item => ⟨lower item.name, String.ofList item.content⟩⟩

end TagForm

/-! ## Characters -/

theorem alpha_bounds {c : Char} (isAlpha : c.isAlpha = true) : 33 ≤ c.toNat ∧ c.toNat ≤ 122 := by
  rcases Bool.or_eq_true_iff.1 isAlpha with isUpper | isLower
  · have upper : 'A'.val ≤ c.val ∧ c.val ≤ 'Z'.val := of_decide_eq_true isUpper
    simp only [UInt32.le_iff_toNat_le, Char.toNat_val] at upper
    exact ⟨Nat.le_trans (by decide) upper.1, Nat.le_trans upper.2 (by decide)⟩
  · obtain ⟨first, last⟩ := (lower_iff c).1 isLower
    exact ⟨Nat.le_trans (by decide) first, last⟩

theorem digit_bounds {c : Char} (isDigit : c.isDigit = true) : 33 ≤ c.toNat ∧ c.toNat ≤ 122 := by
  obtain ⟨first, last⟩ := Bool.and_eq_true_iff.1 isDigit
  have digit : '0'.val ≤ c.val ∧ c.val ≤ '9'.val :=
    ⟨of_decide_eq_true first, of_decide_eq_true last⟩
  simp only [UInt32.le_iff_toNat_le, Char.toNat_val] at digit
  exact ⟨Nat.le_trans (by decide) digit.1, Nat.le_trans digit.2 (by decide)⟩

theorem attribute_char_bounds {c : Char} (isChar : isAttributeChar c = true) :
    33 ≤ c.toNat ∧ c.toNat ≤ 122 := by
  rcases Bool.or_eq_true_iff.1 isChar with isChar | isHyphen
  · rcases Bool.or_eq_true_iff.1 isChar with isAlphanum | isUnderscore
    · exact (Bool.or_eq_true_iff.1 isAlphanum).elim alpha_bounds digit_bounds
    · rw [eq_of_beq isUnderscore]
      decide
  · rw [eq_of_beq isHyphen]
    decide

theorem not_blank_of_attribute_char {c : Char} (isChar : isAttributeChar c = true) :
    isBlank c = false := by
  have bounds := attribute_char_bounds isChar
  simp [isBlank]
  omega

theorem attribute_char_of_alpha {c : Char} (isAlpha : c.isAlpha = true) :
    isAttributeChar c = true := by
  simp [isAttributeChar, Char.isAlphanum, isAlpha]

theorem not_attribute_char_of_blank {c : Char} (blank : isBlank c = true) :
    isAttributeChar c = false := by
  by_contra isChar
  rw [not_blank_of_attribute_char (by simpa using isChar)] at blank
  cases blank

/-! ## Values -/

theorem delimited_of_spells (spells : SpellsValue content value) : Delimited '"' content := by
  induction spells with
  | nil => exact .nil
  | quote later ih => exact .escaped ih
  | pair notQuote later ih => exact .escaped ih
  | plain notQuote notBackslash later ih => exact .plain notQuote notBackslash ih

/-- A legible value is spelled by itself with its quotes escaped. -/
theorem spells_write (legible : Legible value) : SpellsValue (writeValue value) value := by
  induction legible with
  | nil => exact .nil
  | @pair c rest notQuote later ih =>
    rw [writeValue_cons (by decide), writeValue_cons notQuote]
    exact .pair notQuote ih
  | @plain c rest notBackslash later ih =>
    by_cases quote : c = '"'
    · subst quote
      rw [writeValue_quote]
      exact .quote ih
    · rw [writeValue_cons quote]
      exact .plain quote notBackslash ih

/-- Only legible values are spelled. -/
theorem legible_of_spells (spells : SpellsValue content value) : Legible value := by
  induction spells with
  | nil => exact .nil
  | quote later ih => exact .plain (by decide) ih
  | pair notQuote later ih => exact .pair notQuote ih
  | plain notQuote notBackslash later ih => exact .plain notBackslash ih

theorem readValue_of_spells (spells : SpellsValue content value) (after : List Char) :
    readValue (content ++ '"' :: after) = some (value, after) := by
  induction spells with
  | nil =>
    rw [List.nil_append, Tag.readValue.eq_def]
    rfl
  | quote later ih =>
    rw [List.cons_append, List.cons_append, Tag.readValue.eq_def]
    simp [ih]
  | pair notQuote later ih =>
    rw [List.cons_append, List.cons_append, Tag.readValue.eq_def]
    simp [ih, notQuote]
  | plain notQuote notBackslash later ih =>
    rw [List.cons_append, Tag.readValue.eq_def]
    simp [ih, notQuote, notBackslash]

theorem spells_of_readValue (read : readValue text = some (value, after)) :
    ∃ content, text = content ++ '"' :: after ∧ SpellsValue content value := by
  fun_induction readValue text generalizing value after with
  | case1 => cases read
  | case2 =>
    cases read
    exact ⟨[], rfl, .nil⟩
  | case3 => cases read
  | case4 next rest _ ih =>
    obtain ⟨⟨inner, _⟩, found, same⟩ := Option.map_eq_some_iff.1 read
    cases same
    obtain ⟨content, rfl, spells⟩ := ih found
    refine ⟨'\\' :: next :: content, rfl, ?_⟩
    split
    · rename_i isQuote
      subst isQuote
      exact .quote spells
    · rename_i notQuote
      exact .pair notQuote spells
  | case5 c rest notQuote notBackslash ih =>
    obtain ⟨⟨inner, _⟩, found, same⟩ := Option.map_eq_some_iff.1 read
    cases same
    obtain ⟨content, rfl, spells⟩ := ih found
    exact ⟨c :: content, rfl, .plain notQuote notBackslash spells⟩

/-! ## Attributes -/

/-- The first character of an attribute belongs to its name. -/
theorem core_cons {form : AttributeForm} (proper : form.Proper) :
    ∃ first rest, form.core = first :: rest ∧ isBlank first = false := by
  obtain ⟨first, rest, same⟩ := List.exists_cons_of_ne_nil proper.nonempty
  refine ⟨first, _, by rw [AttributeForm.core, same]; rfl, ?_⟩
  exact not_blank_of_attribute_char (proper.named first (by simp [same]))

theorem readAttribute_of_spells {form : AttributeForm} (proper : form.Proper)
    (spells : form.Spells item) (after : List Char) :
    readAttribute (form.core ++ after) = .ok (item, after) := by
  obtain ⟨gap, name, beforeEquals, afterEquals, content⟩ := form
  obtain ⟨-, nonempty, characters, blank, blankAfter⟩ := proper
  obtain ⟨named, valued⟩ := spells
  simp only at nonempty characters blank blankAfter named valued
  have shape : AttributeForm.core ⟨gap, name, beforeEquals, afterEquals, content⟩ ++ after =
      name ++ (beforeEquals ++ '=' :: (afterEquals ++ '"' :: (content ++ '"' :: after))) := by
    simp [AttributeForm.core]
  have ends : ∀ c ∈ (beforeEquals ++
      '=' :: (afterEquals ++ '"' :: (content ++ '"' :: after))).head?,
      isAttributeChar c = false := by
    cases beforeEquals with
    | nil =>
      rintro c ⟨⟩
      rfl
    | cons first rest =>
      rintro c ⟨⟩
      exact not_attribute_char_of_blank (blank first List.mem_cons_self)
  have equals : ∀ c ∈ ('=' :: (afterEquals ++ '"' :: (content ++ '"' :: after))).head?,
      isBlank c = false := by
    rintro c ⟨⟩
    rfl
  have quote : ∀ c ∈ ('"' :: (content ++ '"' :: after)).head?, isBlank c = false := by
    rintro c ⟨⟩
    rfl
  rw [shape, readAttribute]
  simp only [takeWhile_front characters ends, dropWhile_front characters ends, List.isEmpty_iff,
    nonempty, if_false, dropWhile_front blank equals, dropWhile_front blankAfter quote,
    readValue_of_spells valued, String.ofList_toList, ← named]

/-- Text that begins with a name, an equals sign and a quote begins as an attribute does, whatever the
content of that is. -/
theorem opening_of_quoted (blank : ∀ c ∈ gap, isBlank c = true)
    (nonempty : text.takeWhile isAttributeChar ≠ [])
    (equals : (text.dropWhile isAttributeChar).dropWhile isBlank = '=' :: behind)
    (quoted : behind.dropWhile isBlank = '"' :: rest) (content : List Char) :
    ∃ form : AttributeForm, form.Proper ∧ form.gap = gap ∧
      form.name = text.takeWhile isAttributeChar ∧ form.content = content ∧
      gap ++ text = form.opening ++ rest := by
  refine ⟨⟨gap, text.takeWhile isAttributeChar,
    (text.dropWhile isAttributeChar).takeWhile isBlank, behind.takeWhile isBlank, content⟩,
    ⟨blank, nonempty, ?_, ?_, ?_⟩, rfl, rfl, rfl, ?_⟩
  · exact fun c member => List.mem_takeWhile_imp member
  · exact fun c member => List.mem_takeWhile_imp member
  · exact fun c member => List.mem_takeWhile_imp member
  · have whole : text = text.takeWhile isAttributeChar ++
        ((text.dropWhile isAttributeChar).takeWhile isBlank ++
          '=' :: (behind.takeWhile isBlank ++ '"' :: rest)) := by
      rw [← quoted, List.takeWhile_append_dropWhile, ← equals, List.takeWhile_append_dropWhile,
        List.takeWhile_append_dropWhile]
    rw [AttributeForm.opening]
    simpa using congrArg (gap ++ ·) whole

/-- An attribute is its opening, its content and a quote. -/
theorem opening_append (form : AttributeForm) (after : List Char) :
    form.opening ++ (form.content ++ '"' :: after) = form.gap ++ (form.core ++ after) := by
  simp [AttributeForm.opening, AttributeForm.core]

theorem spells_of_readAttribute (read : readAttribute text = .ok (item, after))
    (blank : ∀ c ∈ gap, isBlank c = true) :
    ∃ form : AttributeForm, form.gap = gap ∧ text = form.core ++ after ∧ form.Proper ∧
      form.Spells item := by
  unfold readAttribute at read
  simp only at read
  split at read
  · cases read
  rename_i nonempty
  split at read
  · rename_i rest equals
    split at read
    · cases read
    · rename_i body quoted
      split at read
      · cases read
      · rename_i value after' found
        cases read
        obtain ⟨content, rfl, spells⟩ := spells_of_readValue found
        obtain ⟨form, proper, rfl, named, rfl, whole⟩ :=
          opening_of_quoted blank (by simpa using nonempty) equals quoted content
        rw [opening_append] at whole
        refine ⟨form, rfl, List.append_cancel_left whole, proper, ⟨?_, by simpa using spells⟩⟩
        rw [named]
    · cases read
  · cases read

theorem readAttributes_of_blank (blank : ∀ c ∈ text, isBlank c = true) :
    readAttributes text = .ok [] := by
  have nothing : text.dropWhile isBlank = [] := List.dropWhile_eq_nil_iff.2 blank
  rw [readAttributes]
  split
  · rfl
  · rename_i other
    rw [nothing] at other
    cases other

/-- What is read at the front, behind blanks, comes before what is read behind it. -/
theorem readAttributes_of_first (trimmed : text.dropWhile isBlank = first :: rest)
    (read : readAttribute (first :: rest) = .ok (item, after)) :
    readAttributes text = (readAttributes after).map (item :: ·) := by
  rw [readAttributes]
  split
  · rename_i nothing
    rw [trimmed] at nothing
    cases nothing
  · rename_i same
    rw [trimmed] at same
    cases same
    split
    · rename_i failed
      rw [read] at failed
      cases failed
    · rename_i found
      rw [read] at found
      cases found
      rfl

theorem readAttributes_of_spells {forms : List AttributeForm}
    (proper : ∀ form ∈ forms, form.Proper)
    (spells : List.Forall₂ AttributeForm.Spells forms items)
    (blank : ∀ c ∈ back, isBlank c = true) :
    readAttributes (forms.flatMap AttributeForm.text ++ back) = .ok items := by
  induction spells with
  | nil => exact readAttributes_of_blank blank
  | @cons form item forms items spells later ih =>
    obtain ⟨isProper, proper⟩ := List.forall_mem_cons.1 proper
    obtain ⟨first, rest, same, visible⟩ := core_cons isProper
    have shape : (form :: forms).flatMap AttributeForm.text ++ back =
        form.gap ++ (form.core ++ (forms.flatMap AttributeForm.text ++ back)) := by
      simp [AttributeForm.text]
    have read := readAttribute_of_spells isProper spells (forms.flatMap AttributeForm.text ++ back)
    rw [same, List.cons_append] at read
    have trimmed : (form.gap ++ (form.core ++ (forms.flatMap AttributeForm.text ++ back))).dropWhile
        isBlank = first :: (rest ++ (forms.flatMap AttributeForm.text ++ back)) := by
      rw [same, List.cons_append]
      refine dropWhile_front isProper.gap ?_
      rintro c ⟨⟩
      exact visible
    rw [shape, readAttributes_of_first trimmed read, ih proper]
    rfl

theorem spells_of_readAttributes (read : readAttributes text = .ok items) :
    ∃ forms back, text = forms.flatMap AttributeForm.text ++ back ∧
      (∀ c ∈ back, isBlank c = true) ∧ (∀ form ∈ forms, form.Proper) ∧
      List.Forall₂ AttributeForm.Spells forms items := by
  fun_induction readAttributes text generalizing items with
  | case1 text nothing =>
    cases read
    exact ⟨[], text, rfl, List.dropWhile_eq_nil_iff.1 nothing, List.forall_mem_nil _, .nil⟩
  | case2 => cases read
  | case3 text first rest trimmed item after found shorter =>
    rename_i ih
    obtain ⟨later, others, rfl⟩ := ok_of_map read
    obtain ⟨forms, back, rfl, blank, proper, spells⟩ := ih others
    obtain ⟨form, gap, same, isProper, spellsFirst⟩ := spells_of_readAttribute found
      fun c member => List.mem_takeWhile_imp (p := isBlank) (l := text) member
    refine ⟨form :: forms, back, ?_, blank, List.forall_mem_cons.2 ⟨isProper, proper⟩,
      .cons spellsFirst spells⟩
    rw [List.flatMap_cons, List.append_assoc, AttributeForm.text, gap, List.append_assoc, ← same,
      ← trimmed, List.takeWhile_append_dropWhile]

/-! ## Tags -/

theorem read_of_spells {form : TagForm} (proper : form.Proper) (spells : form.Spells tag) :
    Tag.read form.text = .ok tag := by
  obtain ⟨named, attributes⟩ := spells
  have starts : ∀ c ∈ (form.name ++ form.tail).head?, isBlank c = false := by
    obtain ⟨first, rest, same⟩ := List.exists_cons_of_ne_nil proper.nonempty
    rw [same]
    rintro c ⟨⟩
    have isAlpha := proper.named first (by simp [same])
    exact not_blank_of_attribute_char (attribute_char_of_alpha isAlpha)
  rw [Tag.read, TagForm.text]
  simp only [dropWhile_front proper.front starts, takeWhile_front proper.named proper.ends,
    dropWhile_front proper.named proper.ends, List.isEmpty_iff, proper.nonempty, if_false]
  rw [TagForm.tail, readAttributes_of_spells proper.attributes attributes proper.back, ← named]

/-- A form is read from the octets that it is written as. -/
theorem body_of_spells {form : TagForm} (proper : form.Proper) (spells : form.Spells tag) :
    Tag.ofBody (Bytes.ofChars form.text) = .ok tag := by
  simp only [Tag.ofBody, text_of_chars, String.toList_ofList, read_of_spells proper spells]

theorem spells_of_read (read : Tag.read text = .ok tag) :
    ∃ form : TagForm, form.text = text ∧ form.Proper ∧ form.Spells tag := by
  unfold Tag.read at read
  simp only at read
  split at read
  · cases read
  rename_i nonempty
  split at read
  · cases read
  · rename_i items found
    cases read
    obtain ⟨forms, back, rest, blank, proper, spells⟩ := spells_of_readAttributes found
    refine ⟨⟨text.takeWhile isBlank, (text.dropWhile isBlank).takeWhile Char.isAlpha, forms, back⟩,
      ?_, ⟨?_, by simpa using nonempty, ?_, ?_, proper, blank⟩, rfl, spells⟩
    · rw [TagForm.text, TagForm.tail, ← rest, List.takeWhile_append_dropWhile,
        List.takeWhile_append_dropWhile]
    · exact fun c member => List.mem_takeWhile_imp member
    · exact fun c member => List.mem_takeWhile_imp member
    · rw [TagForm.tail, ← rest]
      exact head_dropWhile Char.isAlpha _

theorem legible_of_attributes_spelled (spells : List.Forall₂ AttributeForm.Spells forms items) :
    ∀ item ∈ items, Legible item.value.toList := by
  induction spells with
  | nil => exact List.forall_mem_nil _
  | cons spells later ih => exact List.forall_mem_cons.2 ⟨legible_of_spells spells.valued, ih⟩

/-- The name of a tag that was read can be written, and so can the values of its attributes. -/
theorem legible_of_body (found : Tag.ofBody body = .ok tag) :
    IsName tag.name ∧ ∀ item ∈ tag.attributes, Legible item.value.toList := by
  unfold Tag.ofBody at found
  split at found
  · cases found
  · split at found
    · cases found
    · cases found
    · rename_i read
      cases found
      obtain ⟨form, -, proper, spells⟩ := spells_of_read read
      refine ⟨⟨?_, ?_⟩, legible_of_attributes_spelled spells.attributes⟩
      · simpa [spells.named, lower] using proper.nonempty
      · intro c member
        rw [spells.named, lower, String.toList_ofList] at member
        obtain ⟨letter, taken, rfl⟩ := List.mem_map.1 member
        exact lower_of_alpha (proper.named letter taken)

/-! ## Documents -/

theorem closed_of_kind {kind : Char → Bool} (inside : ∀ c ∈ text, kind c = true)
    (quote : kind '"' = false) (bracket : kind '>' = false) : Closed text := by
  refine closed_plain (fun member => ?_) (fun member => ?_)
  · rw [inside _ member] at quote
    cases quote
  · rw [inside _ member] at bracket
    cases bracket

/-- Up to its value an attribute has no quotes. -/
theorem closed_front {form : AttributeForm} (proper : form.Proper) :
    Closed (form.gap ++ (form.name ++ (form.beforeEquals ++ (['='] ++ form.afterEquals)))) := by
  have equals : Closed ['='] := closed_plain (by decide) (by decide)
  have behindName := closed_append (closed_of_kind proper.beforeEquals rfl rfl)
    (closed_append equals (closed_of_kind proper.afterEquals rfl rfl))
  exact closed_append (closed_of_kind proper.gap rfl rfl)
    (closed_append (closed_of_kind proper.named rfl rfl) behindName)

theorem closed_attribute {form : AttributeForm} (proper : form.Proper)
    (delimited : Delimited '"' form.content) : Closed form.text := by
  have closed := closed_append (closed_front proper) (closed_quoted delimited)
  simpa [AttributeForm.text, AttributeForm.core] using closed

/-- Forms hold no `>` but between quotes, and close all of these. -/
theorem closed_form {form : TagForm} (proper : form.Proper)
    (delimited : ∀ item ∈ form.attributes, Delimited '"' item.content) : Closed form.text := by
  have attributes : Closed (form.attributes.flatMap AttributeForm.text) :=
    closed_flatMap fun item member =>
      closed_attribute (proper.attributes item member) (delimited item member)
  exact closed_append (closed_of_kind proper.front rfl rfl)
    (closed_append (closed_of_kind proper.named rfl rfl)
      (closed_append attributes (closed_of_kind proper.back rfl rfl)))

/-- Escaping changes nothing that comes before the first value. -/
theorem head_tail_escape {form : TagForm} (proper : form.Proper) :
    form.escape.tail.head? = form.tail.head? := by
  obtain ⟨front, name, attributes, back⟩ := form
  cases attributes with
  | nil => rfl
  | cons item rest =>
    obtain ⟨first, later, same⟩ :=
      List.exists_cons_of_ne_nil (proper.attributes item List.mem_cons_self).nonempty
    obtain ⟨gap, name, beforeEquals, afterEquals, content⟩ := item
    simp only at same
    subst same
    cases gap <;> rfl

theorem proper_escape {form : TagForm} (proper : form.Proper) : form.escape.Proper where
  front := proper.front
  nonempty := proper.nonempty
  named := proper.named
  ends := by
    rw [head_tail_escape proper]
    exact proper.ends
  attributes := by
    intro item member
    obtain ⟨plain, among, rfl⟩ := List.mem_map.1 member
    obtain ⟨gap, nonempty, named, beforeEquals, afterEquals⟩ := proper.attributes plain among
    exact ⟨gap, nonempty, named, beforeEquals, afterEquals⟩
  back := proper.back

theorem spells_escape {form : TagForm} (legible : ∀ item ∈ form.attributes, Legible item.content) :
    form.escape.Spells form.meant := by
  refine ⟨rfl, ?_⟩
  rw [TagForm.escape, TagForm.meant, List.forall₂_map_left_iff, List.forall₂_map_right_iff]
  refine List.forall₂_same.2 fun item member => ⟨rfl, ?_⟩
  rw [String.toList_ofList]
  exact spells_write (legible item member)

/-- Escaped values are delimited, since they are spelled. -/
theorem closed_escape {form : TagForm} (proper : form.Proper)
    (legible : ∀ item ∈ form.attributes, Legible item.content) : Closed form.escape.text := by
  refine closed_form (proper_escape proper) fun item member => ?_
  obtain ⟨plain, among, rfl⟩ := List.mem_map.1 member
  exact delimited_of_spells (spells_write (legible plain among))

theorem of_body_escape {form : TagForm} (proper : form.Proper)
    (legible : ∀ item ∈ form.attributes, Legible item.content) :
    Tag.ofBody (Bytes.ofChars form.escape.text) = .ok form.meant :=
  body_of_spells (proper_escape proper) (spells_escape legible)

/-! ## The form that a tag is written in -/

def AttributeForm.ofAttribute (item : Attribute) : AttributeForm :=
  ⟨[' '], item.name.toList, [], [], item.value.toList⟩

/-- The form of a tag of which the names are written as they are, with a blank in front of each
attribute and behind the last. -/
def TagForm.ofTag (tag : Tag) : TagForm :=
  ⟨[], tag.name.toList, tag.attributes.map .ofAttribute, [' ']⟩

theorem text_of_tag (tag : Tag) : (TagForm.ofTag tag).escape.text = write tag := by
  have tail (items : List Attribute) :
      ((items.map AttributeForm.ofAttribute).map AttributeForm.escape).flatMap AttributeForm.text ++
        [' '] = ' ' :: items.flatMap writeAttribute := by
    induction items with
    | nil => rfl
    | cons item rest ih =>
      simp only [List.map_cons, List.flatMap_cons, List.append_assoc, ih]
      simp [AttributeForm.ofAttribute, AttributeForm.escape, AttributeForm.text,
        AttributeForm.core, writeAttribute]
  exact congrArg (tag.name.toList ++ ·) (tail tag.attributes)

section

variable {tag : Tag} (writable : Writable tag)
include writable

theorem proper_of_tag : (TagForm.ofTag tag).Proper where
  front := List.forall_mem_nil _
  nonempty := by simpa [TagForm.ofTag] using writable.named.nonempty
  named := fun c member => alpha_of_lower (writable.named.letters c member)
  ends := by
    cases attributes : tag.attributes <;>
      simp [TagForm.ofTag, TagForm.tail, attributes, AttributeForm.ofAttribute, AttributeForm.text]
  attributes := by
    intro item member
    obtain ⟨plain, among, rfl⟩ := List.mem_map.1 member
    have isName := writable.names plain among
    refine ⟨List.forall_mem_singleton.2 rfl, ?_, ?_, List.forall_mem_nil _, List.forall_mem_nil _⟩
    · simpa [AttributeForm.ofAttribute] using isName.nonempty
    · exact fun c member => attribute_char_of_alpha (alpha_of_lower (isName.letters c member))
  back := List.forall_mem_singleton.2 rfl

theorem legible_of_tag : ∀ item ∈ (TagForm.ofTag tag).attributes, Legible item.content := by
  intro item member
  obtain ⟨plain, among, rfl⟩ := List.mem_map.1 member
  exact writable.values plain among

theorem meant_of_tag : (TagForm.ofTag tag).meant = tag := by
  have same : ∀ item ∈ tag.attributes,
      (⟨lower item.name.toList, String.ofList item.value.toList⟩ : Attribute) = item := by
    intro item member
    rw [lower_name (writable.names item member), String.ofList_toList]
  rw [TagForm.meant, TagForm.ofTag, lower_name writable.named, List.map_map]
  exact congrArg (Tag.mk tag.name) ((List.map_congr_left same).trans (List.map_id _))

/-- A tag is read back from the octets that it is written as. -/
theorem of_body_write : Tag.ofBody (Bytes.ofChars (write tag)) = .ok tag := by
  have read := of_body_escape (proper_of_tag writable) (legible_of_tag writable)
  rwa [text_of_tag, meant_of_tag writable] at read

/-- Whatever stands behind it in a document, a written tag ends at its own end. -/
theorem first_closer_write (after : Bytes) :
    FirstCloser (Bytes.ofChars (write tag) ++ closer ++ after)
      (Bytes.ofChars (write tag)).length := by
  have closed := closed_escape (proper_of_tag writable) (legible_of_tag writable)
  rw [text_of_tag] at closed
  exact first_closer_of_closed closed after

end

/-! ## Reading and writing -/

/-- Exactly the forms of a tag are read as that tag. A form of legible values, with their quotes
escaped, is found in a document as its first tag, and read back with these values, however it is
spaced and whatever comes behind it. -/
theorem read_decodes_forms :
    (∀ text tag, Tag.read text = .ok tag ↔
      ∃ form : TagForm, form.text = text ∧ form.Proper ∧ form.Spells tag) ∧
    ∀ (form : TagForm) (after : Bytes), form.Proper →
      (∀ item ∈ form.attributes, Legible item.content) →
      let body := Bytes.ofChars form.escape.text
      scan (opener ++ (body ++ closer ++ after)) = (scan after).push (.tag body) ∧
        (scan (opener ++ (body ++ closer ++ after))).placed.head? =
          some (⟨0, (opener ++ body ++ closer).length⟩, .tag body) ∧
        Tag.ofBody body = .ok form.meant := by
  refine ⟨fun text tag => ⟨spells_of_read, ?_⟩, fun form after proper legible => ?_⟩
  · rintro ⟨form, rfl, proper, spells⟩
    exact read_of_spells proper spells
  · have scanned := scan_closed (closed_escape proper legible) after
    refine ⟨scanned, ?_, ?_⟩
    · rw [scanned, Fragments.placed, Fragments.push, Fragments.place, List.head?_cons, Nat.zero_add]
      rfl
    · exact of_body_escape proper legible

/-- An opener, a closer, escapes and quotes in a value, names that are not in lower case, blanks in
each place, and another tag behind it. -/
def loose : TagForm :=
  ⟨"\t ".toList, "ECho".toList,
    [⟨"\n".toList, "Var".toList, " ".toList, "\u00a0".toList,
        "\"-->\\\\<!--#é\\n\"".toList⟩,
      ⟨[], "-X_1".toList, [], [], []⟩],
    " ".toList⟩

theorem loose_read_decodes_forms :
    (∃ form : TagForm, form.text = loose.escape.text ∧ form.Proper ∧ form.Spells
        ⟨"echo", [⟨"var", "\"-->\\\\<!--#é\\n\""⟩, ⟨"-x_1", ""⟩]⟩) ∧
      (let body := Bytes.ofChars loose.escape.text
      scan (opener ++ (body ++ closer ++ Bytes.ofText "<!--#else -->")) =
          (scan (Bytes.ofText "<!--#else -->")).push (.tag body) ∧
        (scan (opener ++ (body ++ closer ++ Bytes.ofText "<!--#else -->"))).placed.head? =
          some (⟨0, (opener ++ body ++ closer).length⟩, .tag body) ∧
        Tag.ofBody body = .ok loose.meant) := by
  refine ⟨(read_decodes_forms.1 _ _).1 (by decide +kernel), read_decodes_forms.2 loose _ ?_ ?_⟩
  · refine ⟨?_, by decide, ?_, ?_, ?_, ?_⟩
    · exact List.all_eq_true.1 (by decide)
    · exact List.all_eq_true.1 (by decide)
    · rintro c ⟨⟩
      rfl
    · refine List.forall_mem_cons.2 ⟨?_, List.forall_mem_cons.2 ⟨?_, List.forall_mem_nil _⟩⟩
      · exact ⟨List.all_eq_true.1 (by decide), by decide, List.all_eq_true.1 (by decide),
          List.all_eq_true.1 (by decide), List.all_eq_true.1 (by decide)⟩
      · exact ⟨List.all_eq_true.1 (by decide), by decide, List.all_eq_true.1 (by decide),
          List.all_eq_true.1 (by decide), List.all_eq_true.1 (by decide)⟩
    · exact List.all_eq_true.1 (by decide)
  · refine List.forall_mem_cons.2 ⟨?_, List.forall_mem_cons.2 ⟨?_, List.forall_mem_nil _⟩⟩
    · exact legible_iff_through.2 (by decide)
    · exact legible_iff_through.2 (by decide)

end ServerIncludes.TagSpelling
