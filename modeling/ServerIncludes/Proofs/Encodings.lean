import ServerIncludes.Encoding
import ServerIncludes.Proofs.Tag.Spelling

/-! What a value is written as in the output. As entities it holds nothing that a reader of markup
would act on, and in a link nothing but letters, digits, four marks and escaped octets; decoders that
know only the entities, or only the escapes, read the value back from it. Every character is written
by itself, so a value can be encoded part by part, and one without special characters stays as it
is. -/
namespace ServerIncludes.Encodings

open Encoding (encode entityOf hexDigit isUnreserved percentOf)
open TagQuotes (text_of_chars utf8_of_ascii)
open TagSpelling (alpha_bounds digit_bounds)

/-! ## Entities -/

/-- The entities, each with the character that it is written for. -/
def entities : List (Char × List Char) :=
  [('<', ['&', 'l', 't', ';']), ('>', ['&', 'g', 't', ';']), ('&', ['&', 'a', 'm', 'p', ';']),
    ('"', ['&', 'q', 'u', 'o', 't', ';']), ('\'', ['&', '#', '3', '9', ';'])]

/-- The entity at the front of a text. -/
def entityAt? (text : List Char) : Option (Char × List Char) :=
  entities.find? fun entity => entity.2.isPrefixOf text

/-- Reads entities from left to right. What starts none of them stands for itself. -/
def decodeEntities (text : List Char) : List Char :=
  match text with
  | [] => []
  | c :: rest =>
    match entityAt? (c :: rest) with
    | none => c :: decodeEntities rest
    | some (meant, spelling) => meant :: decodeEntities (rest.drop (spelling.length - 1))
termination_by text.length
decreasing_by all_goals simp only [List.length_drop, List.length_cons]; omega

/-- A text in which nothing starts or ends a tag or a quoted value, and each `&` starts an entity. -/
structure Inert (text : List Char) : Prop where
  passive : ∀ c ∈ text, c ≠ '<' ∧ c ≠ '>' ∧ c ≠ '"' ∧ c ≠ '\''
  entity : ∀ before after, text = before ++ '&' :: after →
    ∃ entity ∈ entities, entity.2 <+: '&' :: after

/-- A character is written as its entity, or as itself if it has none. -/
theorem entity_of_cases (c : Char) :
    (c, entityOf c) ∈ entities ∨
      entityOf c = [c] ∧ c ≠ '&' ∧ c ≠ '<' ∧ c ≠ '>' ∧ c ≠ '"' ∧ c ≠ '\'' := by
  by_cases special : c ∈ ['<', '>', '&', '"', '\'']
  · refine .inl ?_
    simp only [List.mem_cons, List.not_mem_nil, or_false] at special
    rcases special with rfl | rfl | rfl | rfl | rfl <;> decide
  · simp only [List.mem_cons, List.not_mem_nil, or_false, not_or] at special
    obtain ⟨less, greater, ampersand, double, single⟩ := special
    refine .inr ⟨?_, ampersand, less, greater, double, single⟩
    simp only [entityOf, if_neg less, if_neg greater, if_neg ampersand, if_neg double,
      if_neg single]

theorem entity_of_ne_nil (c : Char) : entityOf c ≠ [] := by
  have filled : ∀ entity ∈ entities, entity.2 ≠ [] := by decide
  rcases entity_of_cases c with member | ⟨alone, -⟩
  · exact filled _ member
  · rw [alone]
    exact List.cons_ne_nil c []

theorem inert_append (first : Inert text) (second : Inert later) : Inert (text ++ later) := by
  refine ⟨List.forall_mem_append.2 ⟨first.passive, second.passive⟩, ?_⟩
  intro before after split
  rcases List.append_eq_append_iff.1 split with ⟨middle, -, here⟩ | ⟨middle, here, behind⟩
  · exact second.entity middle after here
  · cases middle with
    | nil => exact second.entity [] after behind.symm
    | cons c middle =>
      -- an entity that starts in the first text ends there
      obtain ⟨rfl, rfl⟩ := List.cons.inj behind
      obtain ⟨entity, member, starts⟩ := first.entity before middle here
      exact ⟨entity, member, starts.trans (List.prefix_append ('&' :: middle) later)⟩

theorem inert_spelling (member : (c, spelling) ∈ entities) : Inert spelling := by
  obtain ⟨letters, rfl, passive, other⟩ : ∃ letters, spelling = '&' :: letters ∧
      (∀ d ∈ letters, d ≠ '<' ∧ d ≠ '>' ∧ d ≠ '"' ∧ d ≠ '\'') ∧ '&' ∉ letters := by
    simp only [entities, List.mem_cons, List.not_mem_nil, or_false, Prod.mk.injEq] at member
    rcases member with ⟨-, rfl⟩ | ⟨-, rfl⟩ | ⟨-, rfl⟩ | ⟨-, rfl⟩ | ⟨-, rfl⟩ <;>
      exact ⟨_, rfl, by simp, by simp⟩
  refine ⟨List.forall_mem_cons.2 ⟨by decide, passive⟩, ?_⟩
  intro before after split
  cases before with
  | nil => exact ⟨_, member, split ▸ List.prefix_rfl⟩
  | cons d before =>
    obtain ⟨-, rfl⟩ := List.cons.inj split
    exact absurd (List.mem_append_right before List.mem_cons_self) other

theorem inert_entity_of (c : Char) : Inert (entityOf c) := by
  rcases entity_of_cases c with member | ⟨alone, ampersand, passive⟩
  · exact inert_spelling member
  · rw [alone]
    refine ⟨List.forall_mem_singleton.2 passive, fun before after split => ?_⟩
    have member : '&' ∈ [c] := by simp [split]
    exact absurd (List.mem_singleton.1 member).symm ampersand

theorem inert_flat_map (value : List Char) : Inert (value.flatMap entityOf) := by
  induction value with
  | nil => exact ⟨nofun, by simp⟩
  | cons c value ih => exact inert_append (inert_entity_of c) ih

theorem entity_at_spelling (member : (c, spelling) ∈ entities) (rest : List Char) :
    entityAt? (spelling ++ rest) = some (c, spelling) := by
  simp only [entities, List.mem_cons, List.not_mem_nil, or_false, Prod.mk.injEq] at member
  rcases member with ⟨rfl, rfl⟩ | ⟨rfl, rfl⟩ | ⟨rfl, rfl⟩ | ⟨rfl, rfl⟩ | ⟨rfl, rfl⟩ <;> rfl

theorem entity_at_other (other : c ≠ '&') (rest : List Char) : entityAt? (c :: rest) = none := by
  simp [entityAt?, entities, Ne.symm other]

/-- Whatever follows, what a character is written as is read as that character. -/
theorem decode_entity_of (c : Char) (rest : List Char) :
    decodeEntities (entityOf c ++ rest) = c :: decodeEntities rest := by
  rcases entity_of_cases c with member | ⟨alone, ampersand, -⟩
  · have found := entity_at_spelling member rest
    obtain ⟨first, letters, spelled⟩ := List.exists_cons_of_ne_nil (entity_of_ne_nil c)
    rw [spelled, List.cons_append] at found
    rw [spelled, List.cons_append, decodeEntities, found]
    simp
  · rw [alone, List.singleton_append, decodeEntities, entity_at_other ampersand]

theorem decode_flat_map (value : List Char) :
    decodeEntities (value.flatMap entityOf) = value := by
  induction value with
  | nil => rw [List.flatMap_nil, decodeEntities]
  | cons c value ih => rw [List.flatMap_cons, decode_entity_of, ih]

/-! ## Links -/

/-- The value of a hexadecimal digit in either case. -/
def hexValue? (c : Char) : Option Nat :=
  if '0' ≤ c ∧ c ≤ '9' then some (c.toNat - '0'.toNat)
  else if 'A' ≤ c ∧ c ≤ 'F' then some (c.toNat - 'A'.toNat + 10)
  else if 'a' ≤ c ∧ c ≤ 'f' then some (c.toNat - 'a'.toNat + 10)
  else none

/-- The octet that the front of a text is an escape of. -/
def escapedOctet? : List Char → Option UInt8
  | '%' :: high :: low :: _ =>
    (hexValue? high).bind fun high => (hexValue? low).map fun low => .ofNat (16 * high + low)
  | _ => none

/-- Reads escapes from left to right. What starts none stands for its own octets. -/
def decodePercent (text : List Char) : Bytes :=
  match text with
  | [] => []
  | c :: rest =>
    match escapedOctet? (c :: rest) with
    | none => String.utf8EncodeChar c ++ decodePercent rest
    | some octet => octet :: decodePercent (rest.drop 2)
termination_by text.length
decreasing_by all_goals simp only [List.length_drop, List.length_cons]; omega

/-- Characters that stand for themselves in a link. -/
def isLinkChar (c : Char) : Bool :=
  c.isAlphanum || c == '-' || c == '_' || c == '.' || c == '~'

/-- A hexadecimal digit in upper case. -/
def isUpperHex (c : Char) : Bool := c.isDigit || ('A' ≤ c && c ≤ 'F')

/-- Characters that stand for themselves, and octets by their digits. -/
inductive Escaped : List Char → Prop where
  | nil : Escaped []
  | plain (plain : isLinkChar c = true) (later : Escaped rest) : Escaped (c :: rest)
  | octet (first : isUpperHex high = true) (second : isUpperHex low = true)
      (later : Escaped rest) : Escaped ('%' :: high :: low :: rest)

theorem upper_hex_digit : ∀ n < 16, isUpperHex (hexDigit n) = true := by decide

theorem hex_value_digit : ∀ n < 16, hexValue? (hexDigit n) = some n := by decide

theorem code_of_ascii : ∀ n < 128, (Char.ofNat n).toNat = n := by decide

theorem unreserved_of_ascii :
    ∀ n < 128, isUnreserved (UInt8.ofNat n) = isLinkChar (Char.ofNat n) := by decide

theorem ascii_of_unreserved {octet : UInt8} (unreserved : isUnreserved octet = true) :
    octet.toNat < 128 := by
  simp [isUnreserved, UInt8.le_iff_toNat_le, ← UInt8.toNat_inj] at unreserved
  omega

/-- An octet is written as the character that it is the only octet of, if that stands for itself in a
link, and else by its digits. -/
theorem percent_of_cases (octet : UInt8) :
    (∃ c, isLinkChar c = true ∧ String.utf8EncodeChar c = [octet] ∧ percentOf octet = [c]) ∨
      isUnreserved octet = false ∧
        percentOf octet = ['%', hexDigit (octet.toNat / 16), hexDigit (octet.toNat % 16)] := by
  by_cases unreserved : isUnreserved octet = true
  · have ascii := ascii_of_unreserved unreserved
    have code := code_of_ascii _ ascii
    refine .inl ⟨Char.ofNat octet.toNat, ?_, ?_, if_pos unreserved⟩
    · rw [← unreserved_of_ascii _ ascii, UInt8.ofNat_toNat, unreserved]
    · rw [utf8_of_ascii (by rwa [code]), code, UInt8.ofNat_toNat]
  · exact .inr ⟨by simpa using unreserved, if_neg unreserved⟩

theorem escaped_octets (octets : Bytes) : Escaped (octets.flatMap percentOf) := by
  induction octets with
  | nil => exact .nil
  | cons octet octets ih =>
    rw [List.flatMap_cons]
    rcases percent_of_cases octet with ⟨c, plain, -, written⟩ | ⟨-, written⟩
    · rw [written]
      exact .plain plain ih
    · have within := octet.toNat_lt
      rw [written]
      exact .octet (upper_hex_digit _ (by omega)) (upper_hex_digit _ (Nat.mod_lt _ (by decide))) ih

/-- Whatever follows, what an octet is written as is read as that octet. -/
theorem decode_percent_of (octet : UInt8) (rest : List Char) :
    decodePercent (percentOf octet ++ rest) = octet :: decodePercent rest := by
  rcases percent_of_cases octet with ⟨c, plain, single, written⟩ | ⟨-, written⟩
  · have other : c ≠ '%' := by
      rintro rfl
      cases plain
    have found : escapedOctet? (c :: rest) = none := by
      unfold escapedOctet?
      split
      · rename_i same
        exact absurd (List.cons.inj same).1 other
      · rfl
    rw [written, List.singleton_append, decodePercent, found]
    simp only [single, List.singleton_append]
  · have within := octet.toNat_lt
    have found : escapedOctet? (percentOf octet ++ rest) = some octet := by
      rw [written]
      simp only [List.cons_append, escapedOctet?]
      rw [hex_value_digit _ (by omega), hex_value_digit _ (Nat.mod_lt _ (by decide))]
      simp only [Option.bind_some, Option.map_some, Nat.div_add_mod, UInt8.ofNat_toNat]
    rw [written] at found ⊢
    rw [List.cons_append] at found ⊢
    rw [decodePercent, found]
    rfl

theorem decode_octets (octets : Bytes) : decodePercent (octets.flatMap percentOf) = octets := by
  induction octets with
  | nil => rw [List.flatMap_nil, decodePercent]
  | cons octet octets ih => rw [List.flatMap_cons, decode_percent_of, ih]

/-! ## Character by character -/

/-- What each character is written as. -/
def spelling : Encoding → Char → List Char
  | .none, c => [c]
  | .entity, c => entityOf c
  | .url, c => (String.utf8EncodeChar c).flatMap percentOf

theorem toList_encode (encoding : Encoding) (value : String) :
    (encode encoding value).toList = value.toList.flatMap (spelling encoding) := by
  cases encoding with
  | none => exact (List.flatMap_singleton' value.toList).symm
  | entity => exact String.toList_ofList
  | url => exact String.toList_ofList.trans List.flatMap_assoc

theorem encode_append (encoding : Encoding) (value later : String) :
    encode encoding (value ++ later) = encode encoding value ++ encode encoding later := by
  refine String.toList_inj.1 ?_
  simp only [toList_encode, String.toList_append, List.flatMap_append]

/-- The characters that an encoding leaves as they are. -/
def keeps : Encoding → Char → Bool
  | .none, _ => true
  | .entity, c => entities.all fun entity => entity.1 != c
  | .url, c => isLinkChar c

theorem ascii_of_link_char (link : isLinkChar c = true) : c.toNat < 128 := by
  simp only [isLinkChar, Char.isAlphanum, Bool.or_eq_true, beq_iff_eq] at link
  rcases link with ((((alpha | digit) | rfl) | rfl) | rfl) | rfl
  · exact Nat.lt_of_le_of_lt (alpha_bounds alpha).2 (by decide)
  · exact Nat.lt_of_le_of_lt (digit_bounds digit).2 (by decide)
  all_goals decide

theorem octets_of_char (c : Char) : ∃ octet others, String.utf8EncodeChar c = octet :: others := by
  refine List.exists_cons_of_length_pos ?_
  rw [String.length_utf8EncodeChar]
  exact c.utf8Size_pos

theorem percent_of_ne_nil (octet : UInt8) : percentOf octet ≠ [] := by
  rcases percent_of_cases octet with ⟨c, -, -, written⟩ | ⟨-, written⟩ <;>
    · rw [written]
      exact List.cons_ne_nil _ _

theorem spelling_ne_nil (encoding : Encoding) (c : Char) : spelling encoding c ≠ [] := by
  cases encoding with
  | none => exact List.cons_ne_nil c []
  | entity => exact entity_of_ne_nil c
  | url =>
    obtain ⟨octet, others, written⟩ := octets_of_char c
    rw [spelling, written, List.flatMap_cons]
    exact List.append_ne_nil_of_left_ne_nil (percent_of_ne_nil octet) _

theorem entity_of_eq_iff (c : Char) :
    entityOf c = [c] ↔ keeps .entity c = true := by
  rcases entity_of_cases c with member | ⟨alone, apart⟩
  · have longer : ∀ entity ∈ entities, entity.2 ≠ [entity.1] := by decide
    refine iff_of_false (longer _ member) fun kept => ?_
    simpa using List.all_eq_true.1 kept _ member
  · obtain ⟨ampersand, less, greater, double, single⟩ := apart
    refine iff_of_true alone ?_
    simp [keeps, entities, ampersand.symm, less.symm, greater.symm, double.symm, single.symm]

theorem percent_spelling_eq_iff (c : Char) :
    (String.utf8EncodeChar c).flatMap percentOf = [c] ↔ keeps .url c = true := by
  constructor
  · intro alone
    obtain ⟨octet, others, written⟩ := octets_of_char c
    rw [written, List.flatMap_cons] at alone
    rcases percent_of_cases octet with ⟨d, link, -, single⟩ | ⟨-, digits⟩
    · rw [single] at alone
      exact (List.cons.inj alone).1 ▸ link
    · rw [digits] at alone
      cases (List.cons.inj alone).2
  · intro link
    have ascii := ascii_of_link_char link
    have unreserved : isUnreserved (UInt8.ofNat c.toNat) = true := by
      rw [unreserved_of_ascii _ ascii, Char.ofNat_toNat]
      exact link
    have octet : (UInt8.ofNat c.toNat).toNat = c.toNat := UInt8.toNat_ofNat_of_lt' (by
      show c.toNat < 256
      omega)
    rw [utf8_of_ascii ascii, List.flatMap_singleton, percentOf, if_pos unreserved, octet,
      Char.ofNat_toNat]

theorem spelling_eq_iff (encoding : Encoding) (c : Char) :
    spelling encoding c = [c] ↔ keeps encoding c = true := by
  cases encoding with
  | none => exact iff_of_true rfl rfl
  | entity => exact entity_of_eq_iff c
  | url => exact percent_spelling_eq_iff c

/-- Where every character is written as something, a text stays as it is only if each of its
characters does. -/
theorem flat_map_eq_self_iff {spell : Char → List Char} (filled : ∀ c, spell c ≠ [])
    (text : List Char) : text.flatMap spell = text ↔ ∀ c ∈ text, spell c = [c] := by
  have longer : ∀ rest : List Char, rest.length ≤ (rest.flatMap spell).length := by
    intro rest
    induction rest with
    | nil => exact Nat.le_refl _
    | cons c rest ih =>
      have one := List.length_pos_of_ne_nil (filled c)
      rw [List.flatMap_cons, List.length_append, List.length_cons]
      omega
  induction text with
  | nil => simp
  | cons c text ih =>
    rw [List.forall_mem_cons]
    constructor
    · intro same
      obtain ⟨first, more, written⟩ := List.exists_cons_of_ne_nil (filled c)
      rw [List.flatMap_cons, written, List.cons_append] at same
      obtain ⟨rfl, behind⟩ := List.cons.inj same
      have length := congrArg List.length behind
      have behind_longer := longer text
      rw [List.length_append] at length
      have nothing : more = [] := List.eq_nil_of_length_eq_zero (by omega)
      rw [nothing] at written behind
      exact ⟨written, ih.1 behind⟩
    · rintro ⟨alone, others⟩
      rw [List.flatMap_cons, alone, ih.2 others]
      rfl

theorem encode_eq_self_iff (encoding : Encoding) (value : String) :
    encode encoding value = value ↔ value.toList.all (keeps encoding) = true := by
  rw [← String.toList_inj, toList_encode, flat_map_eq_self_iff (spelling_ne_nil encoding),
    List.all_eq_true]
  exact forall₂_congr fun c _ => spelling_eq_iff encoding c

/-- Whatever a value holds, its entities are inert and are read back as the value, and in a link only
letters, digits, `-`, `_`, `.`, `~` and escapes stand for it, which are read back as its octets, and
these as the value. Encoding one value behind another encodes each of them; and a value is its own
encoding exactly if the encoding keeps all of its characters. -/
theorem encode_inert_reversible (value : String) :
    Inert (encode .entity value).toList ∧
    String.ofList (decodeEntities (encode .entity value).toList) = value ∧
    Escaped (encode .url value).toList ∧
    decodePercent (encode .url value).toList = Bytes.ofText value ∧
    Bytes.text? (decodePercent (encode .url value).toList) = some value ∧
    ∀ encoding,
      (∀ later, encode encoding (value ++ later) = encode encoding value ++ encode encoding later) ∧
      (encode encoding value = value ↔ value.toList.all (keeps encoding) = true) := by
  have entity : (encode .entity value).toList = value.toList.flatMap entityOf := toList_encode ..
  have url : (encode .url value).toList = (Bytes.ofText value).flatMap percentOf :=
    String.toList_ofList
  rw [entity, url, decode_flat_map, decode_octets]
  refine ⟨inert_flat_map _, String.ofList_toList, escaped_octets _, rfl, ?_, fun encoding =>
    ⟨encode_append encoding value, encode_eq_self_iff encoding value⟩⟩
  rw [Bytes.ofText, text_of_chars, String.ofList_toList]

/-- What looks encoded already is encoded again. -/
example : encode .entity "&lt;é" = "&amp;lt;é" ∧ encode .url "%41é" = "%2541%C3%A9" := by
  decide +kernel

end ServerIncludes.Encodings
