import Mathlib.Algebra.Order.Floor.Semifield
import Mathlib.Data.Rat.Floor
import ServerIncludes.Proofs.Parts
import ServerIncludes.Size

/-! What sizes are written as. All digits of a size are cut into groups of three from the right.
Abbreviated, a size is rounded once, in the least unit of which there are fewer than 973: a larger
size is never shown as a smaller quantity, though it may be shown in another unit and with another
number of decimals, because 973 of a unit is where the next one is shown as at least 1.0. -/
namespace ServerIncludes.Sizes

open SizeFormat (format group scale units withUnit)

/-- Groups of digits with commas between them, from a number with these digits. -/
structure Grouped (digits text : List Char) (first : List Char) (others : List (List Char)) :
    Prop where
  text : text = [','].intercalate (first :: others)
  digits : first ++ others.flatten = digits
  begins : 1 ≤ first.length ∧ first.length ≤ 3
  threes : ∀ other ∈ others, other.length = 3

/-- A value to the nearest whole number, and a half to the one above it. -/
def rounded (value : Rat) : Nat := ⌊value + 1 / 2⌋₊

/-- The first place in the list of units with fewer than 973 whole units of a size. -/
structure Scaled (size place : Nat) : Prop where
  fits : size / 1024 ^ (place + 1) < 973
  least : ∀ lower < place, 973 ≤ size / 1024 ^ (lower + 1)

/-- A size in the unit at a place, to the last 1024th of the unit that is full. -/
def inUnits (size place : Nat) : Rat := ((size / 1024 ^ place : Nat) : Rat) / 1024

/-- A value with one decimal if that makes less than ten, and else without. -/
def shown (value : Rat) : String :=
  if rounded (10 * value) < 100 then
    toString (rounded (10 * value) / 10) ++ "." ++ toString (rounded (10 * value) % 10)
  else toString (rounded value)

/-- What an abbreviated size is written as. -/
structure Abbreviates (size : Nat) (text : String) : Prop where
  whole : size < 973 → text = toString size
  scaled : 973 ≤ size → ∃ place unit, Scaled size place ∧ units[place]? = some unit ∧
    text = shown (inUnits size place) ++ String.singleton unit
  short : text.length ≤ 4

/-- Scaling that has nothing to write beyond the greatest unit. -/
def scale? (amount : Nat) : List Char → Option String
  | [] => none
  | unit :: larger =>
    if amount / 1024 < 973 then some (withUnit (amount / 1024) (amount % 1024) unit)
    else scale? (amount / 1024) larger

/-- The number of octets that what follows the digits stands for. -/
def unitSize : List Char → Nat
  | [] => 1
  | unit :: _ => 1024 ^ (units.idxOf unit + 1)

/-- The number of octets that a text denotes: digits, perhaps a point and one digit more, perhaps a
unit. -/
def denoted (text : String) : Rat :=
  let whole := Nat.ofDigitChars 10 (text.toList.takeWhile Char.isDigit) 0
  match text.toList.dropWhile Char.isDigit with
  | '.' :: tenth :: unit => (whole + (Nat.ofDigitChars 10 [tenth] 0 : Rat) / 10) * unitSize unit
  | unit => whole * unitSize unit

/-! ## All digits -/

theorem filter_group {digits : List Char} (plain : ',' ∉ digits) :
    (group digits).filter (· != ',') = digits := by
  fun_induction group digits with
  | case1 => rfl
  | case2 c =>
    have other : c ≠ ',' := fun same => plain (same ▸ List.mem_cons_self)
    simp [other]
  | case3 c d rest whole ih =>
    obtain ⟨other, plain⟩ := not_or.1 (mt List.mem_cons.2 plain)
    simp [Ne.symm other, ih plain]
  | case4 c d rest part ih =>
    obtain ⟨other, plain⟩ := not_or.1 (mt List.mem_cons.2 plain)
    simp [Ne.symm other, ih plain]

theorem length_flatten_of_threes {others : List (List Char)}
    (threes : ∀ other ∈ others, other.length = 3) : others.flatten.length = 3 * others.length := by
  induction others with
  | nil => rfl
  | cons other others ih =>
    obtain ⟨here, later⟩ := List.forall_mem_cons.1 threes
    rw [List.flatten_cons, List.length_append, here, ih later, List.length_cons]
    omega

theorem grouped_group {digits : List Char} (nonempty : digits ≠ []) :
    ∃ first others, Grouped digits (group digits) first others := by
  fun_induction group digits with
  | case1 => exact absurd rfl nonempty
  | case2 c => exact ⟨[c], [], by simp, rfl, by simp, by simp⟩
  | case3 c d rest whole ih =>
    obtain ⟨first, others, text, same, begins, threes⟩ := ih (by simp)
    have length := congrArg List.length same
    rw [List.length_append, length_flatten_of_threes threes, List.length_cons] at length
    have full : first.length = 3 := by omega
    refine ⟨[c], first :: others, ?_, by simpa using same, by simp, ?_⟩
    · rw [text, List.intercalate_cons_cons]
      rfl
    · exact List.forall_mem_cons.2 ⟨full, threes⟩
  | case4 c d rest part ih =>
    obtain ⟨first, others, text, same, begins, threes⟩ := ih (by simp)
    have length := congrArg List.length same
    rw [List.length_append, length_flatten_of_threes threes, List.length_cons] at length
    have room : first.length < 3 := by omega
    refine ⟨c :: first, others, ?_, by simpa using same, ?_, threes⟩
    · rw [text, List.intercalate_cons_cons_left]
    · rw [List.length_cons]
      omega

/-! ## Rounding -/

theorem rounded_div (parts : Nat) : rounded ((parts : Rat) / 1024) = (parts + 512) / 1024 := by
  have half : (parts : Rat) / 1024 + 1 / 2 = ((parts + 512 : Nat) : Rat) / (1024 : Nat) := by
    push_cast
    ring
  rw [rounded, half, Nat.floor_div_eq_div]

theorem rounded_tenths (parts : Nat) :
    rounded (10 * ((parts : Rat) / 1024)) = (10 * parts + 512) / 1024 := by
  have scaled : 10 * ((parts : Rat) / 1024) = ((10 * parts : Nat) : Rat) / 1024 := by
    push_cast
    ring
  rw [scaled, rounded_div]

/-- So many parts of 1024 are written as they are rounded. -/
theorem with_unit_eq_shown (parts : Nat) (unit : Char) :
    withUnit (parts / 1024) (parts % 1024) unit =
      shown ((parts : Rat) / 1024) ++ String.singleton unit := by
  unfold withUnit shown
  rw [rounded_tenths, rounded_div]
  by_cases decimal : parts / 1024 < 9 ∨ (parts / 1024 = 9 ∧ parts % 1024 < 973)
  · have below : (10 * parts + 512) / 1024 < 100 := by omega
    rw [if_pos decimal, if_pos below]
    by_cases carried : 10 ≤ (parts % 1024 * 5 + 256) / 512
    · have whole : (10 * parts + 512) / 1024 / 10 = parts / 1024 + 1 := by omega
      have tenth : (10 * parts + 512) / 1024 % 10 = 0 := by omega
      have point : ".0" = "." ++ toString 0 := rfl
      simp only [carried, if_true, whole, tenth, point, String.append_assoc]
    · have whole : (10 * parts + 512) / 1024 / 10 = parts / 1024 := by omega
      have tenth : (10 * parts + 512) / 1024 % 10 = (parts % 1024 * 5 + 256) / 512 := by omega
      simp only [carried, if_false, whole, tenth]
  · have above : ¬ (10 * parts + 512) / 1024 < 100 := by omega
    rw [if_neg decimal, if_neg above]
    by_cases half : 512 ≤ parts % 1024
    · have whole : (parts + 512) / 1024 = parts / 1024 + 1 := by omega
      rw [if_pos half, whole]
    · have whole : (parts + 512) / 1024 = parts / 1024 := by omega
      rw [if_neg half, whole]

/-! ## Scaling -/

theorem scaled_succ {size place : Nat} (large : 973 ≤ size / 1024) :
    Scaled size (place + 1) ↔ Scaled (size / 1024) place := by
  have shift (lower : Nat) : size / 1024 ^ (lower + 1 + 1) = size / 1024 / 1024 ^ (lower + 1) := by
    rw [pow_succ' 1024 (lower + 1), Nat.div_div_eq_div_mul]
  constructor
  · intro scaled
    refine ⟨?_, fun lower below => ?_⟩
    · rw [← shift]
      exact scaled.fits
    · rw [← shift]
      exact scaled.least (lower + 1) (Nat.succ_lt_succ below)
  · intro scaled
    refine ⟨?_, fun lower below => ?_⟩
    · rw [shift]
      exact scaled.fits
    · cases lower with
      | zero => simpa using large
      | succ lower =>
        rw [shift]
        exact scaled.least lower (Nat.lt_of_succ_lt_succ below)

/-- A size is scaled to the unit at its place, whatever units come behind that. -/
theorem scale_of_scaled {size place : Nat} {letters : List Char} {unit : Char}
    (scaled : Scaled size place) (found : letters[place]? = some unit) :
    let text := shown (inUnits size place) ++ String.singleton unit
    scale size letters = text ∧ scale? size letters = some text := by
  induction letters generalizing size place with
  | nil => simp at found
  | cons letter larger ih =>
    cases place with
    | zero =>
      obtain rfl : letter = unit := by simpa using found
      have fits : size / 1024 < 973 := by simpa using scaled.fits
      have same : inUnits size 0 = (size : Rat) / 1024 := by simp [inUnits]
      rw [scale, scale?, if_pos fits, if_pos fits, with_unit_eq_shown, same]
      exact ⟨rfl, rfl⟩
    | succ place =>
      have large : 973 ≤ size / 1024 := by simpa using scaled.least 0 (Nat.succ_pos _)
      have same : inUnits size (place + 1) = inUnits (size / 1024) place := by
        rw [inUnits, inUnits, pow_succ', Nat.div_div_eq_div_mul]
      rw [scale, scale?, if_neg (Nat.not_lt.2 large), if_neg (Nat.not_lt.2 large), same]
      exact ih ((scaled_succ large).1 scaled) (by simpa using found)

/-- Every size of 64 bits has fewer than 973 of one of the six units. -/
theorem scaled_exists {size : Nat} (bounded : size < 2 ^ 64) :
    ∃ place unit, Scaled size place ∧ units[place]? = some unit := by
  have last : size / 1024 ^ (5 + 1) < 973 := by
    have small : size / 1024 ^ (5 + 1) ≤ (2 ^ 64 - 1) / 1024 ^ (5 + 1) :=
      Nat.div_le_div_right (by omega)
    exact Nat.lt_of_le_of_lt small (by norm_num)
  have some_place : ∃ place, size / 1024 ^ (place + 1) < 973 := ⟨5, last⟩
  have within : Nat.find some_place < units.length :=
    Nat.lt_succ_of_le (Nat.find_min' some_place last)
  exact ⟨Nat.find some_place, units[Nat.find some_place],
    ⟨Nat.find_spec some_place, fun lower below => Nat.not_lt.1 (Nat.find_min some_place below)⟩,
    List.getElem?_eq_getElem within⟩

/-! ## What is shown -/

/-- The tenths of a unit that are shown of so many parts of 1024. -/
def shownTenths (parts : Nat) : Nat :=
  if (10 * parts + 512) / 1024 < 100 then (10 * parts + 512) / 1024
  else 10 * ((parts + 512) / 1024)

theorem shown_tenths_mono {parts more : Nat} (le : parts ≤ more) :
    shownTenths parts ≤ shownTenths more := by
  unfold shownTenths
  split <;> split <;> omega

/-- Below 973 units, at most 973 are shown. -/
theorem shown_tenths_le {parts : Nat} (fits : parts / 1024 < 973) : shownTenths parts ≤ 9730 := by
  unfold shownTenths
  split <;> omega

/-- From 973 of the unit below on, a unit is shown as at least one. -/
theorem le_shown_tenths {parts : Nat} (large : 973 ≤ parts) : 10 ≤ shownTenths parts := by
  unfold shownTenths
  split <;> omega

theorem toList_number (number : Nat) : (toString number).toList = Nat.toDigits 10 number := by
  rw [Nat.toString_eq_repr, Nat.toList_repr]

theorem digits_of_number (number : Nat) : ∀ c ∈ Nat.toDigits 10 number, c.isDigit = true :=
  fun _ member => Nat.isDigit_of_mem_toDigits (by decide) (by decide) member

theorem denoted_number (number : Nat) : denoted (toString number) = number := by
  have inside := digits_of_number number
  have all : (Nat.toDigits 10 number).takeWhile Char.isDigit = Nat.toDigits 10 number :=
    List.takeWhile_eq_self_iff.2 inside
  have none : (Nat.toDigits 10 number).dropWhile Char.isDigit = [] :=
    List.dropWhile_eq_nil_iff.2 inside
  rw [denoted, toList_number, all, none]
  simp [unitSize]

theorem unit_size {place : Nat} {unit : Char} (found : units[place]? = some unit) :
    unitSize [unit] = 1024 ^ (place + 1) ∧ unit.isDigit = false ∧ unit ≠ '.' := by
  obtain ⟨within, rfl⟩ := List.getElem?_eq_some_iff.1 found
  have distinct : units.Nodup := by decide
  refine ⟨?_, ?_, ?_⟩
  · rw [unitSize, distinct.idxOf_getElem place within]
  · have letters : units.all (fun c => !c.isDigit) = true := by decide
    simpa using List.all_eq_true.1 letters _ (List.getElem_mem within)
  · have letters : units.all (· != '.') = true := by decide
    simpa using List.all_eq_true.1 letters _ (List.getElem_mem within)

/-- What is shown denotes as many octets as its digits say. -/
theorem denoted_shown (parts : Nat) {place : Nat} {unit : Char}
    (found : units[place]? = some unit) :
    denoted (shown ((parts : Rat) / 1024) ++ String.singleton unit) =
      ((shownTenths parts * 1024 ^ (place + 1) : Nat) : Rat) / 10 := by
  obtain ⟨size, letter, notPoint⟩ := unit_size found
  unfold shown shownTenths
  rw [rounded_tenths, rounded_div]
  generalize (10 * parts + 512) / 1024 = tenths
  by_cases decimal : tenths < 100
  · rw [if_pos decimal, if_pos decimal]
    have text : (toString (tenths / 10) ++ "." ++ toString (tenths % 10) ++
        String.singleton unit).toList =
        Nat.toDigits 10 (tenths / 10) ++ '.' :: (tenths % 10).digitChar :: [unit] := by
      have single := Nat.toDigits_of_lt_base (Nat.mod_lt tenths (show 0 < 10 by decide))
      simp [single]
    have inside := digits_of_number (tenths / 10)
    have ends : ∀ c ∈ ('.' :: (tenths % 10).digitChar :: [unit]).head?, c.isDigit = false := by
      simp
    rw [denoted, text, Parts.takeWhile_front inside ends, Parts.dropWhile_front inside ends]
    have digit : Nat.ofDigitChars 10 [(tenths % 10).digitChar] 0 = tenths % 10 := by
      rw [Nat.ofDigitChars_cons_digitChar_of_lt_ten (by omega), Nat.ofDigitChars_nil,
        Nat.mul_zero, Nat.zero_add]
    have sum : (tenths : Rat) = 10 * (tenths / 10 : Nat) + (tenths % 10 : Nat) := by
      exact_mod_cast (Nat.div_add_mod tenths 10).symm
    simp only [Nat.ofDigitChars_ten_toDigits, digit, size]
    rw [Nat.cast_mul, sum]
    ring
  · rw [if_neg decimal, if_neg decimal]
    generalize (parts + 512) / 1024 = number
    have text : (toString number ++ String.singleton unit).toList =
        Nat.toDigits 10 number ++ [unit] := by
      simp
    have inside := digits_of_number number
    have ends : ∀ c ∈ [unit].head?, c.isDigit = false := by
      simpa using letter
    rw [denoted, text, Parts.takeWhile_front inside ends, Parts.dropWhile_front inside ends]
    simp only [Nat.ofDigitChars_ten_toDigits, size]
    push_cast
    ring

theorem length_number {number places : Nat} (positive : 0 < places) (below : number < 10 ^ places) :
    (toString number).length ≤ places := by
  rw [Nat.toString_eq_repr]
  exact (Nat.length_repr_le_iff positive).2 below

theorem length_shown {parts : Nat} (fits : parts / 1024 < 973) :
    (shown ((parts : Rat) / 1024)).length ≤ 3 := by
  unfold shown
  rw [rounded_tenths, rounded_div]
  by_cases decimal : (10 * parts + 512) / 1024 < 100
  · have whole : (toString ((10 * parts + 512) / 1024 / 10)).length ≤ 1 :=
      length_number (by decide) (by omega)
    have tenth : (toString ((10 * parts + 512) / 1024 % 10)).length ≤ 1 :=
      length_number (by decide) (by omega)
    have point : ".".length = 1 := rfl
    rw [if_pos decimal, String.length_append, String.length_append]
    omega
  · rw [if_neg decimal]
    exact length_number (by decide) (by omega)

/-! ## Abbreviated sizes -/

variable {size larger place place' : Nat}

theorem parts_fit (scaled : Scaled size place) : size / 1024 ^ place / 1024 < 973 := by
  rw [Nat.div_div_eq_div_mul, ← pow_succ]
  exact scaled.fits

theorem le_parts (scaled : Scaled size place) (large : 973 ≤ size) :
    973 ≤ size / 1024 ^ place := by
  cases place with
  | zero => simpa using large
  | succ lower => exact scaled.least lower (Nat.lt_succ_self lower)

theorem place_mono (le : size ≤ larger) (scaled : Scaled size place)
    (scaled' : Scaled larger place') : place ≤ place' := by
  refine Nat.not_lt.1 fun before => ?_
  have above := scaled.least place' before
  have below := scaled'.fits
  have order : size / 1024 ^ (place' + 1) ≤ larger / 1024 ^ (place' + 1) :=
    Nat.div_le_div_right le
  omega

/-- A larger size is shown as no smaller quantity, in a larger unit if not in the same. -/
theorem shown_mono (le : size ≤ larger) (large : 973 ≤ larger) (scaled : Scaled size place)
    (scaled' : Scaled larger place') :
    shownTenths (size / 1024 ^ place) * 1024 ^ (place + 1) ≤
      shownTenths (larger / 1024 ^ place') * 1024 ^ (place' + 1) := by
  rcases Nat.eq_or_lt_of_le (place_mono le scaled scaled') with rfl | before
  · exact Nat.mul_le_mul_right _ (shown_tenths_mono (Nat.div_le_div_right le))
  · -- less than 973 of the lower unit, and at least one of the higher
    have most := shown_tenths_le (parts_fit scaled)
    have least := le_shown_tenths (le_parts scaled' large)
    have units : 1024 ^ (place + 1) * 1024 ≤ 1024 ^ (place' + 1) := by
      rw [← pow_succ]
      exact Nat.pow_le_pow_right (by decide) (by omega)
    calc
      _ ≤ 9730 * 1024 ^ (place + 1) := Nat.mul_le_mul_right _ most
      _ ≤ 10 * (1024 ^ (place + 1) * 1024) := by omega
      _ ≤ 10 * 1024 ^ (place' + 1) := Nat.mul_le_mul_left _ units
      _ ≤ _ := Nat.mul_le_mul_right _ least

theorem format_small {size : UInt64} (small : size.toNat < 973) :
    format size .abbreviated = toString size.toNat := if_pos small

/-- A size of 973 octets or more is written in one of the units, and denotes what is shown. -/
theorem format_large {size : UInt64} (large : 973 ≤ size.toNat) :
    ∃ place unit, Scaled size.toNat place ∧ units[place]? = some unit ∧
      format size .abbreviated = shown (inUnits size.toNat place) ++ String.singleton unit ∧
      scale? size.toNat units = some (format size .abbreviated) := by
  obtain ⟨place, unit, scaled, found⟩ := scaled_exists size.toNat_lt
  obtain ⟨written, known⟩ := scale_of_scaled scaled found
  have format_eq : format size .abbreviated = scale size.toNat units :=
    if_neg (Nat.not_lt.2 large)
  rw [format_eq, written]
  exact ⟨place, unit, scaled, found, rfl, known⟩

theorem abbreviates_format (size : UInt64) :
    Abbreviates size.toNat (format size .abbreviated) := by
  refine ⟨format_small, fun large => ?_, ?_⟩
  · obtain ⟨place, unit, scaled, found, written, -⟩ := format_large large
    exact ⟨place, unit, scaled, found, written⟩
  · by_cases small : size.toNat < 973
    · rw [format_small small]
      exact Nat.le_trans (length_number (by decide) (by omega : size.toNat < 10 ^ 3)) (by decide)
    · obtain ⟨place, unit, scaled, -, written, -⟩ := format_large (Nat.not_lt.1 small)
      have three := length_shown (parts_fit scaled)
      have one : (String.singleton unit).length = 1 := by simp
      rw [written, inUnits, String.length_append, one]
      omega

theorem denoted_mono {smaller larger : UInt64} (le : smaller ≤ larger) :
    denoted (format smaller .abbreviated) ≤ denoted (format larger .abbreviated) := by
  have order : smaller.toNat ≤ larger.toNat := UInt64.le_iff_toNat_le.1 le
  by_cases small : larger.toNat < 973
  · rw [format_small small, format_small (Nat.lt_of_le_of_lt order small), denoted_number,
      denoted_number]
    exact_mod_cast order
  · have large := Nat.not_lt.1 small
    obtain ⟨place', unit', scaled', found', written', -⟩ := format_large large
    rw [written', inUnits, denoted_shown _ found']
    by_cases whole : smaller.toNat < 973
    · have least := le_shown_tenths (le_parts scaled' large)
      have unit : 1024 ≤ 1024 ^ (place' + 1) := Nat.le_self_pow (by omega) 1024
      have shown := Nat.mul_le_mul least unit
      rw [format_small whole, denoted_number, le_div_iff₀ (by norm_num)]
      exact_mod_cast (by omega : smaller.toNat * 10 ≤ _)
    · obtain ⟨place, unit, scaled, found, written, -⟩ := format_large (Nat.not_lt.1 whole)
      rw [written, inUnits, denoted_shown _ found]
      have shown := shown_mono order large scaled scaled'
      exact div_le_div_of_nonneg_right (by exact_mod_cast shown) (by norm_num)

/-- In full, a size is written with its decimal digits, which commas cut into groups of three from
the right. Abbreviated, it is written with all its digits below 973, and else in the first unit of
which there are fewer than 973, rounded to one decimal or to none, in at most four characters; one of
the six units always does, and a larger size denotes no smaller quantity. -/
theorem format_faithful (size : UInt64) :
    ((format size .bytes).toList.filter (· != ',') = (toString size.toNat).toList ∧
      ∃ first others, Grouped (toString size.toNat).toList (format size .bytes).toList first others) ∧
    Abbreviates size.toNat (format size .abbreviated) ∧
    (973 ≤ size.toNat → scale? size.toNat units = some (format size .abbreviated)) ∧
    ∀ larger, size ≤ larger →
      denoted (format size .abbreviated) ≤ denoted (format larger .abbreviated) := by
  have digits : (toString size.toNat).toList = Nat.toDigits 10 size.toNat := toList_number _
  have full : (format size .bytes).toList = group (Nat.toDigits 10 size.toNat) :=
    String.toList_ofList
  have plain : ',' ∉ Nat.toDigits 10 size.toNat := fun member => by
    have isDigit := digits_of_number size.toNat ',' member
    cases isDigit
  rw [digits, full]
  refine ⟨⟨filter_group plain, grouped_group Nat.toDigits_ne_nil⟩, abbreviates_format size, ?_, ?_⟩
  · intro large
    obtain ⟨place, unit, scaled, found, written, known⟩ := format_large large
    exact known
  · intro larger le
    exact denoted_mono le

/-- The greatest size that is shown in the first unit, and the least one in the second. -/
theorem format_faithful_between_units :
    format 996351 .abbreviated = "973K" ∧ format 996352 .abbreviated = "1.0M" ∧
      format 996352 .bytes = "996,352" ∧
      (973 ≤ (996352 : UInt64).toNat ∧ scale? (996352 : UInt64).toNat units = some "1.0M") ∧
      (996351 : UInt64) ≤ 996352 ∧
      denoted (format 996351 .abbreviated) ≤ denoted (format 996352 .abbreviated) := by
  have below : format 996351 .abbreviated = "973K" := by decide +kernel
  have above : format 996352 .abbreviated = "1.0M" := by decide +kernel
  obtain ⟨-, -, known, -⟩ := format_faithful 996352
  obtain ⟨-, -, -, order⟩ := format_faithful 996351
  have large : 973 ≤ (996352 : UInt64).toNat := by decide
  have le : (996351 : UInt64) ≤ 996352 := by decide
  refine ⟨below, above, by decide +kernel, ⟨large, ?_⟩, le, order 996352 le⟩
  rw [known large, above]

end ServerIncludes.Sizes
