/-!
Variables by name. They are kept in the order of their names, each name once, so equal variables
are equal as values.
-/

namespace ServerIncludes

/-- Values by name, in increasing order of names. -/
structure Variables where
  entries : List (String × String)
  increasing : entries.Pairwise fun a b => a.1 < b.1
  deriving DecidableEq

namespace Variables

/-- Puts an entry where its name belongs, in place of one with the same name. -/
def insertEntry (name value : String) : List (String × String) → List (String × String)
  | [] => [(name, value)]
  | (first, held) :: rest =>
    if name < first then (name, value) :: (first, held) :: rest
    else if name = first then (name, value) :: rest
    else (first, held) :: insertEntry name value rest

theorem mem_insertEntry {name value : String} {entries : List (String × String)}
    {entry : String × String} (member : entry ∈ insertEntry name value entries) :
    entry = (name, value) ∨ entry ∈ entries := by
  induction entries with
  | nil => exact .inl (List.mem_singleton.1 member)
  | cons head rest ih =>
    unfold insertEntry at member
    split at member
    · exact (List.mem_cons.1 member).imp_right id
    · split at member
      · exact (List.mem_cons.1 member).imp_right (List.mem_cons_of_mem _)
      · rcases List.mem_cons.1 member with same | later
        · exact .inr (same ▸ List.mem_cons_self)
        · exact (ih later).imp_right (List.mem_cons_of_mem _)

theorem increasing_insertEntry {name value : String} {entries : List (String × String)}
    (increasing : entries.Pairwise fun a b => a.1 < b.1) :
    (insertEntry name value entries).Pairwise fun a b => a.1 < b.1 := by
  induction entries with
  | nil => exact List.pairwise_singleton _ _
  | cons head rest ih =>
    obtain ⟨above, later⟩ := List.pairwise_cons.1 increasing
    unfold insertEntry
    split
    · next before =>
      refine List.pairwise_cons.2 ⟨fun entry member => ?_, increasing⟩
      rcases List.mem_cons.1 member with same | inRest
      · exact same ▸ before
      · exact String.lt_trans before (above entry inRest)
    · next notBefore =>
      split
      · next same =>
        exact List.pairwise_cons.2 ⟨fun entry member => same ▸ above entry member, later⟩
      · next different =>
        refine List.pairwise_cons.2 ⟨fun entry member => ?_, ih later⟩
        rcases mem_insertEntry member with same | inRest
        · subst same
          refine Decidable.byContradiction fun notAfter => different ?_
          exact String.le_antisymm notAfter notBefore
        · exact above entry inRest

def empty : Variables := ⟨[], List.Pairwise.nil⟩

/-- The value of a variable, if it has one. -/
def get? (bindings : Variables) (name : String) : Option String :=
  (bindings.entries.find? fun entry => entry.1 == name).map (·.2)

/-- Gives a variable a value. -/
def set (bindings : Variables) (name value : String) : Variables :=
  ⟨insertEntry name value bindings.entries, increasing_insertEntry bindings.increasing⟩

theorem find?_insertEntry_self (name value : String) (entries : List (String × String)) :
    (insertEntry name value entries).find? (·.1 == name) = some (name, value) := by
  induction entries with
  | nil => simp [insertEntry]
  | cons head rest ih =>
    unfold insertEntry
    split
    · simp
    · split
      · simp
      · next different =>
        rw [List.find?_cons_of_neg (by simpa using Ne.symm different)]
        exact ih

theorem find?_insertEntry_of_ne {asked name : String} (other : asked ≠ name) (value : String)
    (entries : List (String × String)) :
    (insertEntry name value entries).find? (·.1 == asked) = entries.find? (·.1 == asked) := by
  have missed : (name == asked) = false := beq_false_of_ne (Ne.symm other)
  induction entries with
  | nil => simp [insertEntry, Ne.symm other]
  | cons head rest ih =>
    unfold insertEntry
    split
    · simp only [List.find?_cons, missed]
    · split
      · next same => simp only [List.find?_cons, ← same, missed]
      · simp only [List.find?_cons, ih]

theorem get?_set_self (bindings : Variables) (name value : String) :
    (bindings.set name value).get? name = some value := by
  simp only [get?, set, find?_insertEntry_self, Option.map_some]

theorem get?_set_of_ne {asked name : String} (other : asked ≠ name) (bindings : Variables)
    (value : String) : (bindings.set name value).get? asked = bindings.get? asked := by
  simp only [get?, set, find?_insertEntry_of_ne other]

/-- Takes the value of a variable away. -/
def erase (bindings : Variables) (name : String) : Variables :=
  ⟨bindings.entries.filter fun entry => entry.1 != name, bindings.increasing.filter _⟩

/-- Gives variables their values in order, later ones taking the place of earlier ones. -/
def ofList (pairs : List (String × String)) : Variables :=
  pairs.foldl (fun bindings pair => bindings.set pair.1 pair.2) empty

/-- Gives several variables their values in order. -/
def setAll (bindings : Variables) (pairs : List (String × String)) : Variables :=
  pairs.foldl (fun bindings pair => bindings.set pair.1 pair.2) bindings

end Variables

end ServerIncludes
