import Mathlib.Data.List.TakeWhile

/-! What is known of the parts when the whole is known: of steps that can fail one after another, of
tests, and of texts cut where a kind of characters ends. -/
namespace ServerIncludes.Parts

theorem ok_of_bind {step : Except ε α} {next : α → Except ε β} (done : step >>= next = .ok result) :
    ∃ value, step = .ok value ∧ next value = .ok result := by
  cases step with
  | error error => cases done
  | ok value => exact ⟨value, rfl, done⟩

theorem ok_of_map {step : Except ε α} {change : α → β} (done : step.map change = .ok result) :
    ∃ value, step = .ok value ∧ change value = result := by
  cases step with
  | error error => cases done
  | ok value =>
    cases done
    exact ⟨value, rfl, rfl⟩

theorem error_of_map {step : Except ε α} {change : α → β}
    (failed : step.map change = .error error) : step = .error error := by
  cases step with
  | error other =>
    cases failed
    rfl
  | ok value => cases failed

theorem ok_of_map_error {step : Except ε α} {report : ε → ε'}
    (done : step.mapError report = .ok result) : step = .ok result := by
  cases step with
  | error error => cases done
  | ok value =>
    cases done
    rfl

theorem ok_of_to_option {step : Except ε α} {view : α → β}
    (shown : step.toOption.map view = some seen) :
    ∃ value, step = .ok value ∧ view value = seen := by
  cases step with
  | error error => cases shown
  | ok value => exact ⟨value, rfl, Option.some.inj shown⟩

theorem of_ite {test : Prop} [Decidable test] {first second result : α}
    (done : (if test then first else second) = result) :
    test ∧ first = result ∨ ¬ test ∧ second = result := by
  by_cases holds : test
  · rw [if_pos holds] at done
    exact .inl ⟨holds, done⟩
  · rw [if_neg holds] at done
    exact .inr ⟨holds, done⟩

variable {kind : Char → Bool} {front rest : List Char}

/-- Characters of a kind in front of a text that does not go on with that kind are all that is taken
from it. -/
theorem takeWhile_front (inside : ∀ c ∈ front, kind c = true)
    (ends : ∀ c ∈ rest.head?, kind c = false) : (front ++ rest).takeWhile kind = front := by
  rw [List.takeWhile_append_of_pos inside]
  cases rest with
  | nil => simp
  | cons next rest => simp [ends next rfl]

theorem dropWhile_front (inside : ∀ c ∈ front, kind c = true)
    (ends : ∀ c ∈ rest.head?, kind c = false) : (front ++ rest).dropWhile kind = rest := by
  rw [List.dropWhile_append_of_pos inside]
  cases rest with
  | nil => simp
  | cons next rest => simp [ends next rfl]

/-- What is left does not start with the kind that was taken. -/
theorem head_dropWhile (kind : Char → Bool) (text : List Char) :
    ∀ c ∈ (text.dropWhile kind).head?, kind c = false := by
  intro c member
  have stops := List.head?_dropWhile_not kind text
  rw [member] at stops
  exact stops

variable {stop : Char} {text after : List Char}

theorem not_mem_takeWhile (stop : Char) (text : List Char) : stop ∉ text.takeWhile (· != stop) :=
  fun member => by simpa using List.mem_takeWhile_imp member

/-- A text up to a character, and what is behind that. -/
theorem split_at_stop (found : text.dropWhile (· != stop) = head :: after) :
    text = text.takeWhile (· != stop) ++ stop :: after := by
  have isStop : head = stop := by simpa [found] using head_dropWhile (· != stop) text
  subst isStop
  rw [← found, List.takeWhile_append_dropWhile]

end ServerIncludes.Parts
