import ServerIncludes.Document.Directive

/-! The written form of tags: names in lower case, values between double quotes with a backslash
before each quote in them. Which values can be written so is said character by character. -/
namespace ServerIncludes.TagWriting

open Tag (lower)

/-! ## Values -/

/-- Values that can be given in a tag: each backslash in them goes with the character behind it, and
that is no quote. -/
inductive Legible : List Char → Prop where
  | nil : Legible []
  | pair (notQuote : c ≠ '"') (later : Legible rest) : Legible ('\\' :: c :: rest)
  | plain (notBackslash : c ≠ '\\') (later : Legible rest) : Legible (c :: rest)

/-- A value between its quotes. -/
def writeValue (value : List Char) : List Char :=
  value.flatMap fun c => if c = '"' then ['\\', '"'] else [c]

theorem writeValue_quote (rest : List Char) :
    writeValue ('"' :: rest) = '\\' :: '"' :: writeValue rest := rfl

theorem writeValue_cons (notQuote : c ≠ '"') (rest : List Char) :
    writeValue (c :: rest) = c :: writeValue rest := by
  simp [writeValue, notQuote]

/-- Goes past one character of a value; `paired` tells whether it belongs to a backslash in front of
it. There a quote cannot be written. -/
def step (paired : Bool) (c : Char) : Option Bool :=
  if paired then if c = '"' then none else some false else some (c == '\\')

/-- Goes through a part of a value. -/
def through (paired : Bool) (text : List Char) : Option Bool := text.foldlM step paired

@[simp] theorem through_nil (paired : Bool) : through paired [] = some paired := rfl

@[simp] theorem through_cons (paired : Bool) (c : Char) (rest : List Char) :
    through paired (c :: rest) = (step paired c).bind (through · rest) := rfl

theorem through_append (paired : Bool) (front rest : List Char) :
    through paired (front ++ rest) = (through paired front).bind (through · rest) :=
  List.foldlM_append

theorem legible_of_through :
    (through false value = some false → Legible value) ∧
      (through true value = some false → Legible ('\\' :: value)) := by
  induction value with
  | nil => exact ⟨fun _ => .nil, nofun⟩
  | cons c rest ih =>
    refine ⟨fun passed => ?_, fun passed => ?_⟩
    · by_cases backslash : c = '\\'
      · subst backslash
        exact ih.2 passed
      · have state : (c == '\\') = false := by simpa using backslash
        exact .plain backslash (ih.1 (by simpa [step, state] using passed))
    · by_cases quote : c = '"'
      · simp [step, quote] at passed
      · exact .pair quote (ih.1 (by simpa [step, quote] using passed))

/-- A value is legible if every character of it can be passed and no backslash is left alone at its
end. -/
theorem legible_iff_through : Legible value ↔ through false value = some false := by
  refine ⟨fun legible => ?_, legible_of_through.1⟩
  induction legible with
  | nil => rfl
  | pair notQuote later ih => simpa [step, notQuote] using ih
  | @plain c rest notBackslash later ih =>
    have state : (c == '\\') = false := by simpa using notBackslash
    simpa [step, state] using ih

/-! ## Tags -/

/-- Names of directives and attributes, as they are written. -/
structure IsName (name : String) : Prop where
  nonempty : name ≠ ""
  letters : ∀ c ∈ name.toList, c.isLower = true

instance (name : String) : Decidable (IsName name) :=
  decidable_of_iff (name ≠ "" ∧ name.toList.all Char.isLower = true)
    ⟨fun both => ⟨both.1, List.all_eq_true.1 both.2⟩,
      fun isName => ⟨isName.nonempty, List.all_eq_true.2 isName.letters⟩⟩

/-- Tags that can be written. -/
structure Writable (tag : Tag) : Prop where
  named : IsName tag.name
  names : ∀ item ∈ tag.attributes, IsName item.name
  values : ∀ item ∈ tag.attributes, Legible item.value.toList

def writeAttribute (item : Attribute) : List Char :=
  item.name.toList ++ '=' :: '"' :: (writeValue item.value.toList ++ ['"', ' '])

/-- The inside of a tag. -/
def write (tag : Tag) : List Char :=
  tag.name.toList ++ ' ' :: tag.attributes.flatMap writeAttribute

theorem lower_iff (c : Char) : c.isLower = true ↔ 97 ≤ c.toNat ∧ c.toNat ≤ 122 := by
  have bounds : c.isLower = true ↔ 'a'.val ≤ c.val ∧ c.val ≤ 'z'.val := by
    constructor
    · intro isLower
      obtain ⟨first, last⟩ := Bool.and_eq_true_iff.1 isLower
      exact ⟨of_decide_eq_true first, of_decide_eq_true last⟩
    · rintro ⟨first, last⟩
      exact Bool.and_eq_true_iff.2 ⟨decide_eq_true first, decide_eq_true last⟩
  simp [bounds, UInt32.le_iff_toNat_le, ← Char.toNat_val]

section

variable {c : Char} (isLower : c.isLower = true)
include isLower

theorem alpha_of_lower : c.isAlpha = true := Bool.or_eq_true_iff.2 (.inr isLower)

theorem toLower_of_lower : c.toLower = c := by
  refine dif_neg fun isUpper => ?_
  have bounds := (lower_iff _).1 isLower
  have last : c.val.toNat ≤ 90 := UInt32.le_iff_toNat_le.1 isUpper.2
  rw [Char.toNat_val] at last
  omega

end

theorem lower_name {name : String} (isName : IsName name) : lower name.toList = name := by
  have kept : name.toList.map Char.toLower = name.toList :=
    (List.map_congr_left fun c member => toLower_of_lower (isName.letters c member)).trans
      (List.map_id _)
  rw [lower, kept, String.ofList_toList]

theorem lower_of_upper {c : Char} (isUpper : c.isUpper = true) : c.toLower.isLower = true := by
  have upper : c.val ≥ 'A'.val ∧ c.val ≤ 'Z'.val := of_decide_eq_true isUpper
  have bounds : 65 ≤ c.toNat ∧ c.toNat ≤ 90 := by
    simpa [UInt32.le_iff_toNat_le, ← Char.toNat_val] using upper
  have code : (c.val + ('a'.val - 'A'.val)).toNat = c.toNat + 32 := by
    have small : c.toNat + 32 < 2 ^ 32 := by omega
    rw [UInt32.toNat_add, ← Char.toNat_val]
    exact Nat.mod_eq_of_lt small
  have within : 97 ≤ (c.val + ('a'.val - 'A'.val)).toNat ∧
      (c.val + ('a'.val - 'A'.val)).toNat ≤ 122 := by omega
  have raised : c.toLower = ⟨c.val + ('a'.val - 'A'.val), _⟩ := dif_pos upper
  rw [raised, lower_iff]
  exact within

theorem lower_of_alpha {c : Char} (isAlpha : c.isAlpha = true) : c.toLower.isLower = true := by
  rcases Bool.or_eq_true_iff.1 isAlpha with isUpper | isLower
  · exact lower_of_upper isUpper
  · rwa [toLower_of_lower isLower]

end ServerIncludes.TagWriting
