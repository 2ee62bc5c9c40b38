import Mathlib.Data.List.Nodup
import ServerIncludes.Pattern
import ServerIncludes.Proofs.Unicode.Digits

/-! Names of groups. However a pattern is read, at most one name is added at a time, and only one
that a group may have and that is new. So no two groups of a pattern share a name, and no name starts
with a digit, as the numbers do under which groups are bound as well. -/
namespace ServerIncludes.GroupNames

open Digits (not_alphabetic_of_digit)
open Parts (of_ite)
open PatternReader

/-- The names that have been read can be names of groups, and no two are the same. -/
structure Sound (names : List (Nat × List Char)) : Prop where
  valid : ∀ entry ∈ names, isGroupName entry.2 = true
  distinct : (names.map (·.2)).Nodup

theorem sound_cons (sound : Sound names) (valid : isGroupName name = true)
    (fresh : ∀ entry ∈ names, entry.2 ≠ name) (index : Nat) : Sound ((index, name) :: names) where
  valid := List.forall_mem_cons.2 ⟨valid, sound.valid⟩
  distinct := by
    refine List.nodup_cons.2 ⟨fun member => ?_, sound.distinct⟩
    obtain ⟨entry, held, same⟩ := List.mem_map.1 member
    exact fresh entry held same

/-! ## Steps of the reader -/

theorem names_close {state : State} (closed : state.closeGroup? = some next) :
    next.names = state.names := by
  unfold State.closeGroup? at closed
  split at closed
  · cases closed
  · cases closed
    rfl

theorem names_repeat {state : State} (repeated : state.repeatLast? least most lazily = some next) :
    next.names = state.names := by
  unfold State.repeatLast? at repeated
  split at repeated
  · cases repeated
  · split at repeated
    · cases repeated
      rfl
    · cases repeated

theorem names_push_char {state : State} (pushed : state.pushChar? c octet = some next) :
    next.names = state.names := by
  unfold State.pushChar? at pushed
  split at pushed
  · cases pushed
  · split at pushed
    · cases pushed
      rfl
    · cases pushed
      rfl

theorem names_push_primitive {state : State} (pushed : state.pushPrimitive? primitive = some next) :
    next.names = state.names := by
  cases primitive with
  | literal c octet => exact names_push_char pushed
  | set members =>
    cases pushed
    rfl
  | place anchor =>
    cases pushed
    rfl

theorem names_push_any {state : State} (pushed : state.pushAny? = some next) :
    next.names = state.names := by
  obtain ⟨set, -, rfl⟩ := Option.map_eq_some_iff.1 pushed
  rfl

theorem sound_named_group {state : State} (sound : Sound state.names)
    (taken : takeNamedGroup state text = some next) : Sound next.value.names := by
  unfold takeNamedGroup at taken
  simp only at taken
  split at taken
  · cases taken
  · split at taken
    · rename_i allowed
      simp only [Bool.and_eq_true, Bool.not_eq_true', List.any_eq_false, beq_iff_eq] at allowed
      cases taken
      exact sound_cons sound allowed.1 allowed.2 _
    · cases taken

theorem names_flag_group {state : State} (taken : takeFlagGroup state text = some next) :
    next.value.names = state.names := by
  unfold takeFlagGroup at taken
  simp only at taken
  split at taken
  · cases taken
  · split at taken
    · cases taken
    · obtain ⟨flags, -, rfl⟩ := Option.map_eq_some_iff.1 taken
      split <;> rfl

theorem sound_group_head {state : State} (sound : Sound state.names)
    (taken : takeGroupHead state text = some next) : Sound next.value.names := by
  unfold takeGroupHead at taken
  split at taken
  · obtain ⟨named, read, rfl⟩ := Option.map_eq_some_iff.1 taken
    exact sound_named_group sound read
  · cases taken
  · cases taken
  · cases taken
  · cases taken
  · obtain ⟨named, read, rfl⟩ := Option.map_eq_some_iff.1 taken
    exact sound_named_group sound read
  · obtain ⟨flagged, read, rfl⟩ := Option.map_eq_some_iff.1 taken
    exact names_flag_group read ▸ sound
  · cases taken
    exact sound

theorem names_take_repeat {state : State} (taken : takeRepeat state least most text = some next) :
    next.value.names = state.names := by
  obtain ⟨state', repeated, rfl⟩ := Option.map_eq_some_iff.1 taken
  exact names_repeat repeated

theorem names_take_counted {state : State} (taken : takeCounted state text = some next) :
    next.value.names = state.names := by
  obtain ⟨bounds, -, read⟩ := Option.bind_eq_some_iff.1 taken
  obtain ⟨counted, repeated, rfl⟩ := Option.map_eq_some_iff.1 read
  show counted.value.names = state.names
  exact names_take_repeat repeated

/-- One step of the reader keeps names sound. Only a group that is opened with a name adds one. -/
theorem sound_take_part {state : State} (sound : Sound state.names)
    (taken : takePart state c rest = some next) : Sound next.value.names := by
  unfold takePart at taken
  rcases of_ite taken with ⟨-, taken⟩ | ⟨-, taken⟩
  · exact sound_group_head sound taken
  rcases of_ite taken with ⟨-, taken⟩ | ⟨-, taken⟩
  · obtain ⟨closed, found, rfl⟩ := Option.map_eq_some_iff.1 taken
    exact names_close found ▸ sound
  rcases of_ite taken with ⟨-, ⟨⟩⟩ | ⟨-, taken⟩
  · exact sound
  rcases of_ite taken with ⟨-, taken⟩ | ⟨-, taken⟩
  · obtain ⟨read, -, rfl⟩ := Option.map_eq_some_iff.1 taken
    exact sound
  rcases of_ite taken with ⟨-, taken⟩ | ⟨-, taken⟩
  · exact names_take_repeat taken ▸ sound
  rcases of_ite taken with ⟨-, taken⟩ | ⟨-, taken⟩
  · exact names_take_repeat taken ▸ sound
  rcases of_ite taken with ⟨-, taken⟩ | ⟨-, taken⟩
  · exact names_take_repeat taken ▸ sound
  rcases of_ite taken with ⟨-, taken⟩ | ⟨-, taken⟩
  · exact names_take_counted taken ▸ sound
  rcases of_ite taken with ⟨-, taken⟩ | ⟨-, taken⟩
  · obtain ⟨escape, -, read⟩ := Option.bind_eq_some_iff.1 taken
    obtain ⟨pushed, found, rfl⟩ := Option.map_eq_some_iff.1 read
    exact names_push_primitive found ▸ sound
  rcases of_ite taken with ⟨-, taken⟩ | ⟨-, taken⟩
  · obtain ⟨pushed, found, rfl⟩ := Option.map_eq_some_iff.1 taken
    exact names_push_any found ▸ sound
  rcases of_ite taken with ⟨-, ⟨⟩⟩ | ⟨-, taken⟩
  · exact sound
  rcases of_ite taken with ⟨-, ⟨⟩⟩ | ⟨-, taken⟩
  · exact sound
  obtain ⟨pushed, found, rfl⟩ := Option.map_eq_some_iff.1 taken
  exact names_push_char found ▸ sound

/-- Reading to the end keeps names sound. -/
theorem sound_read {state : State} (sound : Sound state.names)
    (done : read state text = some last) : Sound last.names := by
  fun_induction read state text with
  | case1 =>
    cases done
    exact sound
  | case2 => cases done
  | case3 =>
    rename_i taken shorter ih
    exact ih (sound_take_part sound taken) done

/-! ## Names of patterns -/

/-- The names of the groups of a pattern are different, and all of them can be names of groups. -/
theorem names_of_pattern (pattern : Pattern) :
    (∀ entry ∈ pattern.compiled.names, isGroupName entry.2.toList = true) ∧
      (pattern.compiled.names.map (·.2)).Nodup := by
  obtain ⟨⟨regex, groups, names⟩, parsed, compiled⟩ := Option.map_eq_some_iff.1 pattern.compiles
  rw [← compiled]
  obtain ⟨state, read, kept⟩ := Option.bind_eq_some_iff.1 parsed
  rcases of_ite kept with ⟨-, same⟩ | ⟨-, ⟨⟩⟩
  cases same
  have start : Sound State.start.names := ⟨nofun, .nil⟩
  have sound := sound_read start read
  constructor
  · intro entry member
    obtain ⟨held, among, rfl⟩ := List.mem_map.1 member
    simpa using sound.valid held (List.mem_reverse.1 among)
  · have names : (state.names.reverse.map fun entry => (entry.1, String.ofList entry.2)).map (·.2) =
        (state.names.map (·.2)).reverse.map String.ofList := by simp
    rw [names]
    exact (List.nodup_reverse.2 sound.distinct).map fun _ _ => String.ofList_injective

/-- A number is not the name of a group. -/
theorem number_not_group_name (below : index < 10) :
    isGroupName (toString index).toList = false := by
  -- A check of the text: as a statement about all of its characters this could be decided by going
  -- through all characters that there are.
  have digits : ∀ index < 10,
      ((toString index).toList.all fun c => 48 ≤ c.toNat && c.toNat ≤ 57) = true := by
    decide +kernel
  cases spelled : (toString index).toList with
  | nil => rfl
  | cons first rest =>
    have checked := List.all_eq_true.1 (digits index below) first (spelled ▸ List.mem_cons_self)
    obtain ⟨low, high⟩ : 48 ≤ first.toNat ∧ first.toNat ≤ 57 := by simpa using checked
    have notLow : first ≠ '_' := by
      rintro rfl
      exact absurd high (by decide)
    simp [isGroupName, not_alphabetic_of_digit low high, notLow]

end ServerIncludes.GroupNames
