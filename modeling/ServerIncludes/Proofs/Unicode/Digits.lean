import ServerIncludes.Proofs.Parts
import ServerIncludes.Unicode.Property

/-! The digits `0` to `9` are not alphabetic. Sets of characters are made by reading ranges off texts
and by joining ranges; what is in such a set stands in one of the ranges that it was made of, so it is
enough to look at these. -/
namespace ServerIncludes.Digits

open CharSet (joinFrom ofRanges ofText readRanges)
open Parts (of_ite)

/-- A code point stands in a range. -/
def Within (code : Nat) (range : Nat × Nat) : Prop := range.1 ≤ code ∧ code ≤ range.2

/-- No digit stands in any of some ranges. -/
def NoDigits (ranges : List (Nat × Nat)) : Prop :=
  ∀ range ∈ ranges, ∀ code, 48 ≤ code → code ≤ 57 → ¬ Within code range

/-! ## Sets made of ranges -/

theorem within_of_join_from (held : found ∈ joinFrom low high rest) (within : Within code found) :
    ∃ range ∈ (low, high) :: rest, Within code range := by
  fun_induction joinFrom low high rest with
  | case1 low high => exact ⟨found, held, within⟩
  | case2 low high first final rest touches ih =>
    obtain ⟨range, member, inside⟩ := ih held
    rcases List.mem_cons.1 member with rfl | later
    · by_cases early : code ≤ high
      · exact ⟨(low, high), List.mem_cons_self, inside.1, early⟩
      · have upTo : code ≤ max high final := inside.2
        have second : Within code (first, final) := ⟨by omega, by omega⟩
        exact ⟨(first, final), List.mem_cons_of_mem _ List.mem_cons_self, second⟩
    · exact ⟨range, List.mem_cons_of_mem _ (List.mem_cons_of_mem _ later), inside⟩
  | case3 low high first final rest apart ih =>
    rcases List.mem_cons.1 held with rfl | later
    · exact ⟨_, List.mem_cons_self, within⟩
    · obtain ⟨range, member, inside⟩ := ih later
      exact ⟨range, List.mem_cons_of_mem _ member, inside⟩

theorem no_digits_of_ranges (none : NoDigits pairs) : NoDigits (ofRanges pairs).ranges := by
  intro range held code low high within
  unfold ofRanges at held
  split at held
  · cases held
  · rename_i first final rest sorted
    obtain ⟨pair, member, inside⟩ := within_of_join_from held within
    exact none pair (List.mem_mergeSort.1 (sorted ▸ member)) code low high inside

theorem no_digits_union (first : NoDigits s.ranges) (second : NoDigits t.ranges) :
    NoDigits (CharSet.union s t).ranges :=
  no_digits_of_ranges (List.forall_mem_append.2 ⟨first, second⟩)

/-! ## Sets read off texts -/

/-- The characters of some lines. -/
inductive Spells : List String → List (List Char) → Prop where
  | nil : Spells [] []
  | cons (later : Spells lines texts) : Spells (String.ofList text :: lines) (text :: texts)

theorem ranges_of_spells (spells : Spells lines texts) :
    (ofText lines).ranges = texts.flatMap (readRanges none 0) := by
  unfold ofText
  induction spells with
  | nil => rfl
  | cons later ih => simpa using ih

/-- Whether a set that is read off lines starts behind the digits can be told by the characters. -/
theorem no_digits_of_spells (spells : Spells lines texts)
    (beyond : ((texts.flatMap (readRanges none 0)).all fun range => 57 < range.1) = true) :
    NoDigits (ofText lines).ranges := by
  rw [ranges_of_spells spells]
  intro range member code low high within
  have starts : 57 < range.1 := of_decide_eq_true (List.all_eq_true.1 beyond range member)
  exact absurd within.1 (by omega)

theorem no_digits_other_alphabetic : NoDigits Unicode.otherAlphabetic.ranges := by
  unfold Unicode.otherAlphabetic
  exact no_digits_of_spells (by repeat constructor) (by decide +kernel)

theorem no_digits_added_alphabetic : NoDigits Unicode.addedAlphabetic.ranges := by
  unfold Unicode.addedAlphabetic
  exact no_digits_of_spells (by repeat constructor) (by decide +kernel)

/-! ## Categories -/

theorem start_le_of_placed (held : run ∈ Category.placeRuns start entries) : start ≤ run.1 := by
  induction entries generalizing start with
  | nil => cases held
  | cons entry rest ih =>
    rcases List.mem_cons.1 held with rfl | later
    · exact Nat.le_refl _
    · exact Nat.le_trans (Nat.le_add_right _ _) (ih later)

/-- The digits are a run of decimal numbers, with other runs before and behind it. -/
theorem runs_around_digits : ∃ before later,
    Category.runs.toList = before ++ (48, 57, .decimalNumber) :: Category.placeRuns 58 later ∧
      ∀ run ∈ before, run.2.1 < 48 := by
  obtain ⟨row, rows, split, front⟩ : ∃ row rows, Category.rows = row :: rows ∧
      (Category.readRuns [] 0 row.toList).take 13 = [(.control, 32), (.spaceSeparator, 1),
        (.otherPunctuation, 3), (.currencySymbol, 1), (.otherPunctuation, 3), (.openPunctuation, 1),
        (.closePunctuation, 1), (.otherPunctuation, 1), (.mathSymbol, 1), (.otherPunctuation, 1),
        (.dashPunctuation, 1), (.otherPunctuation, 2), (.decimalNumber, 10)] :=
    ⟨_, _, rfl, by decide +kernel⟩
  have runs : Category.runs.toList = Category.placeRuns 0
      ((Category.readRuns [] 0 row.toList).take 13 ++ ((Category.readRuns [] 0 row.toList).drop 13 ++
        rows.flatMap fun row => Category.readRuns [] 0 row.toList)) := by
    rw [Category.runs, split, List.flatMap_cons, ← List.append_assoc, List.take_append_drop]
  rw [front] at runs
  generalize (Category.readRuns [] 0 row.toList).drop 13 ++ _ = later at runs
  refine ⟨Category.runs.toList.take 12, later, ?_, ?_⟩
  · rw [runs]
    rfl
  · rw [runs]
    simp [Category.placeRuns]

theorem decimal_of_digit (held : run ∈ Category.runs.toList) (within : Within code (run.1, run.2.1))
    (low : 48 ≤ code) (high : code ≤ 57) : run.2.2 = .decimalNumber := by
  obtain ⟨before, later, runs, ends⟩ := runs_around_digits
  obtain ⟨starts, stops⟩ := within
  rw [runs] at held
  rcases List.mem_append.1 held with early | rest
  · have upTo := ends run early
    simp only at stops
    omega
  · rcases List.mem_cons.1 rest with rfl | late
    · rfl
    · have beyond := start_le_of_placed late
      simp only at starts
      omega

theorem no_digits_of_categories (other : wanted.contains Category.decimalNumber = false) :
    NoDigits (Category.charSet wanted).ranges := by
  refine no_digits_of_ranges fun range member code low high within => ?_
  obtain ⟨⟨first, final, category⟩, held, kept⟩ := List.mem_filterMap.1 member
  rcases of_ite kept with ⟨among, same⟩ | ⟨-, ⟨⟩⟩
  cases same
  have decimal : category = .decimalNumber := decimal_of_digit held within low high
  rw [decimal, other] at among
  cases among

theorem not_contains_of_no_digits (none : NoDigits members.ranges) (low : 48 ≤ c.toNat)
    (high : c.toNat ≤ 57) : CharSet.contains members c = false := by
  rw [CharSet.contains, CharSet.containsCode, List.any_eq_false]
  intro range member within
  simp only [Bool.and_eq_true, decide_eq_true_eq] at within
  exact none range member c.toNat low high within

/-- A digit is not alphabetic. -/
theorem not_alphabetic_of_digit (low : 48 ≤ c.toNat) (high : c.toNat ≤ 57) :
    Unicode.isAlphabetic c = false := by
  have listed : NoDigits Unicode.alphabetic.ranges :=
    no_digits_union (no_digits_of_categories (by decide +kernel)) no_digits_other_alphabetic
  rw [Unicode.isAlphabetic, not_contains_of_no_digits listed low high,
    not_contains_of_no_digits no_digits_added_alphabetic low high]
  rfl

end ServerIncludes.Digits
