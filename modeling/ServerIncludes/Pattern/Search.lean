import ServerIncludes.Pattern.Program
import ServerIncludes.Unicode.Property

/-!
Searching a subject for the leftmost match, and among those that start there for the preferred
one. All ways to go on at a place are kept in order of preference, no instruction twice, so the
work at each place is bounded by the size of the program.
-/

namespace ServerIncludes.Program

/-- The characters around a place in the subject. -/
structure Place where
  index : Nat
  before : Option Char
  after : Option Char

/-- True for a word character; `ascii` admits ASCII alone. -/
def isWordChar (ascii : Bool) (c : Char) : Bool :=
  if ascii || c.toNat < 128 then c.isAlphanum || c == '_'
  else Unicode.wordCharacters.contains c

/-- True if a place is of the kind asked for. -/
def Place.satisfies (place : Place) : Anchor → Bool
  | .start => place.before.isNone
  | .stop => place.after.isNone
  | .lineStart => place.before.isNone || place.before == some '\n'
  | .lineStop => place.after.isNone || place.after == some '\n'
  | .anyLineStart => place.before.isNone || place.before == some '\n' ||
      (place.before == some '\r' && place.after != some '\n')
  | .anyLineStop => place.after.isNone || place.after == some '\r' ||
      (place.after == some '\n' && place.before != some '\r')
  | .wordBoundary ascii => place.before.any (isWordChar ascii) != place.after.any (isWordChar ascii)
  | .insideWord ascii => place.before.any (isWordChar ascii) == place.after.any (isWordChar ascii)
  | .wordStart ascii => !place.before.any (isWordChar ascii) && place.after.any (isWordChar ascii)
  | .wordStop ascii => place.before.any (isWordChar ascii) && !place.after.any (isWordChar ascii)
  | .noWordBefore ascii => !place.before.any (isWordChar ascii)
  | .noWordAfter ascii => !place.after.any (isWordChar ascii)

/-- The places in the subject that one way to match has remembered. -/
abbrev Slots := Array (Option Nat)

/-- One way to go on: an instruction and what has been remembered before it. -/
structure Thread where
  next : Nat
  slots : Slots

/-- The instructions that have not been met at this place. -/
def unmet (seen : Array Bool) : Nat := seen.countP (fun met => !met)

theorem unmet_set_add_one {seen : Array Bool} {index : Nat} (bound : index < seen.size)
    (fresh : seen[index] = false) : unmet (seen.set index true) + 1 = unmet seen := by
  have positive : 0 < seen.countP (fun met => !met) :=
    Array.countP_pos_iff.2 ⟨seen[index], Array.getElem_mem bound, by simp [fresh]⟩
  simp only [unmet, Array.countP_set, fresh]
  simp only [Bool.not_false, Bool.not_true, ↓reduceIte, Bool.false_eq_true]
  omega

/-- What a place in the subject leads to: threads that read a character there, in order of
preference, and the slots of a match that is preferred to all threads left out. -/
structure Reached where
  readers : List (CharSet × Thread)
  accepted : Option Slots

/-- Follows threads until they read a character or the pattern has matched. An instruction that
was met before is not followed again: a preferred thread has taken it. `readers` are the threads
that have come to read a character, the last one first. -/
def follow (program : Program) (place : Place) (seen : Array Bool)
    (readers : List (CharSet × Thread)) : List Thread → Reached
  | [] => ⟨readers.reverse, none⟩
  | thread :: later =>
    if bound : thread.next < seen.size then
      if fresh : seen[thread.next] = false then
        have decreases := unmet_set_add_one bound fresh
        let seen := seen.set thread.next true
        match program.code[thread.next]? with
        | none => follow program place seen readers later
        | some (.read set next) =>
          follow program place seen ((set, ⟨next, thread.slots⟩) :: readers) later
        | some (.split first second) =>
          follow program place seen readers
            (⟨first, thread.slots⟩ :: ⟨second, thread.slots⟩ :: later)
        | some (.save slot next) =>
          follow program place seen readers
            (⟨next, thread.slots.set! slot (some place.index)⟩ :: later)
        | some (.check kind next) =>
          if place.satisfies kind then
            follow program place seen readers (⟨next, thread.slots⟩ :: later)
          else follow program place seen readers later
        | some .accept => ⟨readers.reverse, some thread.slots⟩
      else follow program place seen readers later
    else follow program place seen readers later
termination_by threads => 2 * unmet seen + threads.length
decreasing_by all_goals simp only [List.length_cons]; omega

/-- Goes through the subject from a place on. `threads` are the ways to go on there, and `found` is
a match preferred to all of them; as long as there is none, a match may also start here. -/
def advance (program : Program) (slots : Nat) (index : Nat) (before : Option Char)
    (threads : List Thread) (found : Option Slots) : List Char → Option Slots
  | [] => (reachedAt none).accepted.or found
  | c :: rest =>
    let reached := reachedAt (some c)
    let found := reached.accepted.or found
    let threads := reached.readers.filterMap fun (set, thread) =>
      if set.contains c then some thread else none
    if threads.isEmpty && found.isSome then found
    else advance program slots (index + 1) (some c) threads found rest
where
  reachedAt (after : Option Char) : Reached :=
    follow program ⟨index, before, after⟩ (Array.replicate program.code.size false) []
      (if found.isSome then threads else threads ++ [⟨program.start, Array.replicate slots none⟩])

/-- The text of every group in the preferred match, group zero being the whole match; nothing for a
group that took no part. -/
def search (program : Program) (groups : Nat) (subject : String) :
    Option (List (Option String)) :=
  let chars := subject.toList
  (advance program (2 * (groups + 1)) 0 none [] none chars).map fun slots =>
    (List.range (groups + 1)).map fun group =>
      match slots[2 * group]?, slots[2 * group + 1]? with
      | some (some first), some (some last) =>
        some (String.ofList ((chars.drop first).take (last - first)))
      | _, _ => none

end ServerIncludes.Program
