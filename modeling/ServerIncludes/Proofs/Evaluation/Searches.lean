import ServerIncludes.Evaluator
import ServerIncludes.Proofs.Pattern.GroupNames

/-! Searches for patterns, and what they leave bound. A search that finds its pattern binds the groups
that took part in the match, and those only: a variable named as a group that did not keeps the text
of an earlier match. So after each match of a run the variables `0` to `9` hold the texts of the last
matches in which their groups took part, and these are all of one match only if no group has dropped
out since. -/
namespace ServerIncludes.Searches

open GroupNames (names_of_pattern number_not_group_name)
open Parts (ok_of_to_option)
open Variables (get?_set_of_ne get?_set_self)

/-- A search for a pattern in a text, and the context that it starts from. -/
structure Search where
  pattern : Pattern
  subject : String
  before : Context

namespace Search

/-- The groups of the match, if the pattern is found. -/
def captures? (search : Search) : Option Captures := search.pattern.search search.subject

/-- The text of a group, if the pattern is found and the group took part. -/
def groupText (search : Search) (index : Nat) : Option String :=
  search.captures?.bind (·.group? index)

/-- The context that the search leaves. -/
def after (search : Search) : Context :=
  (Condition.find search.pattern search.subject search.before).context

end Search

/-- The searches of settling a condition, in the order in which they are made. -/
def ofCondition : Condition → Context → List Search
  | .literal _, _ => []
  | .reference _, _ => []
  | .compare _ left right, context =>
    ofCondition left context ++ ofCondition right (left.meaning.value context).context
  | .search _ subject pattern, context =>
    let text := subject.meaning.value context
    ofCondition subject context ++ [⟨pattern, text.value, text.context⟩]
  | .not negated, context => ofCondition negated context
  | .and left right, context =>
    let holds := left.meaning.truth context
    ofCondition left context ++ if holds.value then ofCondition right holds.context else []
  | .or left right, context =>
    let holds := left.meaning.truth context
    ofCondition left context ++ if holds.value then [] else ofCondition right holds.context
  | .group grouped, context => ofCondition grouped context

/-- An evaluator that has settled conditions one after another. -/
def settleAll (evaluator : Evaluator) : List Condition → Evaluator
  | [] => evaluator
  | condition :: later => settleAll (evaluator.truth condition).2 later

/-- The searches that an evaluator makes when it settles conditions one after another. -/
def inTurn (evaluator : Evaluator) : List Condition → List Search
  | [] => []
  | condition :: later =>
    ofCondition condition evaluator.context ++ inTurn (evaluator.truth condition).2 later

/-- Searches that lead from one context to another: each of them starts from what the one before it
has left. -/
def Lead : Context → List Search → Context → Prop
  | context, [], last => context = last
  | context, search :: later, last => search.before = context ∧ Lead search.after later last

/-- The text of a group in the last of some searches that found it taking part. -/
def lastText (index : Nat) : List Search → Option String
  | [] => none
  | search :: later => (lastText index later).or (search.groupText index)

/-! ## Searches of conditions -/

theorem lead_append (first : Lead context searches middle) (second : Lead middle later last) :
    Lead context (searches ++ later) last := by
  induction searches generalizing context with
  | nil =>
    cases first
    exact second
  | cons search searches ih => exact ⟨first.1, ih first.2⟩

/-- Finding the value of a condition leaves the context that settling it does. -/
theorem context_of_value (condition : Condition) (context : Context) :
    (condition.meaning.value context).context = (condition.meaning.truth context).context := by
  have shown (query : Query Bool) :
      ((Meaning.ofTruth query).value context).context = (query context).context := by
    show ((if (query context).value then pure "1" else pure "" : Query String)
      (query context).context).context = _
    cases (query context).value <;> rfl
  induction condition with
  | literal text => rfl
  | reference name => rfl
  | group grouped ih => exact ih
  | _ => exact shown _

theorem lead_of_condition (condition : Condition) (context : Context) :
    Lead context (ofCondition condition context) (condition.meaning.truth context).context := by
  induction condition generalizing context with
  | literal text => rfl
  | reference name => rfl
  | compare comparison left right first second =>
    refine lead_append (first context) ?_
    rw [← context_of_value left]
    have rest := second (left.meaning.value context).context
    rwa [← context_of_value right] at rest
  | search expected subject pattern ih =>
    refine lead_append (ih context) ?_
    rw [← context_of_value subject]
    exact ⟨rfl, rfl⟩
  | not negated ih => exact ih context
  | and left right first second =>
    refine lead_append (first context) ?_
    show Lead _ _ ((if (left.meaning.truth context).value then right.meaning.truth else pure false :
      Query Bool) (left.meaning.truth context).context).context
    cases (left.meaning.truth context).value with
    | true => exact second _
    | false => rfl
  | or left right first second =>
    refine lead_append (first context) ?_
    show Lead _ _ ((if (left.meaning.truth context).value then pure true else right.meaning.truth :
      Query Bool) (left.meaning.truth context).context).context
    cases (left.meaning.truth context).value with
    | true => rfl
    | false => exact second _
  | group grouped ih => exact ih context

theorem lead_in_turn (evaluator : Evaluator) (conditions : List Condition) :
    Lead evaluator.context (inTurn evaluator conditions)
      (settleAll evaluator conditions).context := by
  induction conditions generalizing evaluator with
  | nil => rfl
  | cons condition later ih =>
    exact lead_append (lead_of_condition condition _) (ih (evaluator.truth condition).2)

/-! ## What a search leaves bound -/

theorem get?_set_all_of_absent {pairs : List (String × String)} (absent : name ∉ pairs.map (·.1))
    (bindings : Variables) : (bindings.setAll pairs).get? name = bindings.get? name := by
  induction pairs generalizing bindings with
  | nil => rfl
  | cons pair rest ih =>
    rw [List.map_cons, List.mem_cons, not_or] at absent
    exact (ih absent.2 _).trans (get?_set_of_ne absent.1 bindings pair.2)

theorem get?_set_all_of_mem {pairs : List (String × String)} (distinct : (pairs.map (·.1)).Nodup)
    (member : (name, value) ∈ pairs) (bindings : Variables) :
    (bindings.setAll pairs).get? name = some value := by
  induction pairs generalizing bindings with
  | nil => cases member
  | cons pair rest ih =>
    obtain ⟨fresh, others⟩ := List.nodup_cons.1 distinct
    rcases List.mem_cons.1 member with rfl | later
    · exact (get?_set_all_of_absent fresh _).trans (get?_set_self bindings name value)
    · exact ih others later _

/-- Names that are read off some items are among those that the items have. -/
theorem names_sublist {items : List α} {read : α → Option (String × String)} {nameOf : α → String}
    (named : ∀ item pair, read item = some pair → pair.1 = nameOf item) :
    ((items.filterMap read).map (·.1)).Sublist (items.map nameOf) := by
  induction items with
  | nil => exact .slnil
  | cons item rest ih =>
    rw [List.filterMap_cons]
    cases found : read item with
    | none => exact ih.cons _
    | some pair =>
      rw [List.map_cons, List.map_cons, named item pair found]
      exact ih.cons_cons _

/-- What a match binds: the texts of groups under numbers, and of groups with names under these. -/
theorem mem_bindings_iff (captures : Captures) (name text : String) :
    (name, text) ∈ captures.bindings ↔
      (∃ index < 10, captures.group? index = some text ∧ name = toString index) ∨
      ∃ index, (index, name) ∈ captures.names ∧ captures.group? index = some text := by
  simp only [Captures.bindings, List.mem_append, List.mem_filterMap, List.mem_range,
    Option.map_eq_some_iff, Prod.mk.injEq, Prod.exists]
  constructor
  · rintro (⟨index, below, _, took, rfl, rfl⟩ | ⟨index, _, held, _, took, rfl, rfl⟩)
    · exact .inl ⟨index, below, took, rfl⟩
    · exact .inr ⟨index, held, took⟩
  · rintro (⟨index, below, took, rfl⟩ | ⟨index, held, took⟩)
    · exact .inl ⟨index, below, text, took, rfl, rfl⟩
    · exact .inr ⟨index, name, held, text, took, rfl, rfl⟩

theorem not_number_of_named (found : Search.captures? search = some captures)
    (held : (group, name) ∈ captures.names) (below : index < 10) : name ≠ toString index := by
  obtain ⟨groups, -, rfl⟩ := Option.map_eq_some_iff.1 found
  rintro rfl
  have named := (names_of_pattern search.pattern).1 _ held
  rw [number_not_group_name below] at named
  cases named

theorem number_injective :
    ∀ index < 10, ∀ other < 10, toString other = toString index → other = index := by
  decide +kernel

/-- A match binds no name twice: the names of its groups are different, and none is a number. -/
theorem names_distinct (found : Search.captures? search = some captures) :
    (captures.bindings.map (·.1)).Nodup := by
  obtain ⟨numbers, names, split, ofNumbers, ofNames⟩ : ∃ numbers names,
      captures.bindings.map (·.1) = numbers ++ names ∧
        numbers.Sublist ((List.range 10).map toString) ∧
        names.Sublist (captures.names.map (·.2)) := by
    refine ⟨_, _, List.map_append, names_sublist ?_, names_sublist ?_⟩
    · intro index pair bound
      obtain ⟨text, -, rfl⟩ := Option.map_eq_some_iff.1 bound
      rfl
    · intro entry pair bound
      obtain ⟨text, -, rfl⟩ := Option.map_eq_some_iff.1 bound
      rfl
  have numbersDistinct : ((List.range 10).map toString).Nodup := by decide +kernel
  have namesDistinct : (captures.names.map (·.2)).Nodup := by
    obtain ⟨groups, -, rfl⟩ := Option.map_eq_some_iff.1 found
    exact (names_of_pattern search.pattern).2
  rw [split, List.nodup_append]
  refine ⟨numbersDistinct.sublist ofNumbers, namesDistinct.sublist ofNames, ?_⟩
  intro number isNumber name isName same
  obtain ⟨index, below, rfl⟩ := List.mem_map.1 (ofNumbers.subset isNumber)
  obtain ⟨entry, held, rfl⟩ := List.mem_map.1 (ofNames.subset isName)
  exact not_number_of_named found held (List.mem_range.1 below) same.symm

theorem after_of_missed (missed : Search.captures? search = none) :
    search.after = search.before := by
  unfold Search.captures? at missed
  simp only [Search.after, Condition.find, missed]
  rfl

theorem after_of_found (found : Search.captures? search = some captures) : search.after =
    { search.before with bindings := search.before.bindings.setAll captures.bindings } := by
  unfold Search.captures? at found
  simp only [Search.after, Condition.find, found]
  rfl

/-- After a match, a number is bound to the text of its group if the group took part, and else to
what it was bound to before. -/
theorem number_after (search : Search) (below : index < 10) :
    search.after.bindings.get? (toString index) =
      (search.groupText index).or (search.before.bindings.get? (toString index)) := by
  cases found : search.captures? with
  | none =>
    rw [after_of_missed found, Search.groupText, found]
    rfl
  | some captures =>
    rw [after_of_found found, Search.groupText, found, Option.bind_some]
    cases took : captures.group? index with
    | some text =>
      have bound := (mem_bindings_iff captures _ text).2 (.inl ⟨index, below, took, rfl⟩)
      exact get?_set_all_of_mem (names_distinct found) bound _
    | none =>
      refine get?_set_all_of_absent (fun member => ?_) _
      obtain ⟨⟨name, text⟩, bound, same⟩ := List.mem_map.1 member
      rcases (mem_bindings_iff captures name text).1 bound with
        ⟨other, otherBelow, otherTook, rfl⟩ | ⟨group, held, -⟩
      · rw [number_injective index below other otherBelow same, took] at otherTook
        cases otherTook
      · exact not_number_of_named found held below same

/-- After a match, the name of a group that took part is bound to its text. -/
theorem named_after (found : Search.captures? search = some captures)
    (held : (index, name) ∈ captures.names) (took : captures.group? index = some text) :
    search.after.bindings.get? name = some text := by
  rw [after_of_found found]
  have bound := (mem_bindings_iff captures name text).2 (.inr ⟨index, held, took⟩)
  exact get?_set_all_of_mem (names_distinct found) bound _

/-! ## Runs of searches -/

/-- Before a search, a number is bound to what the searches before it have left. -/
theorem number_before (lead : Lead context (earlier ++ search :: later) last) (below : index < 10) :
    search.before.bindings.get? (toString index) =
      (lastText index earlier).or (context.bindings.get? (toString index)) := by
  induction earlier generalizing context with
  | nil => rw [lead.1]; rfl
  | cons first earlier ih =>
    rw [ih lead.2, number_after first below, lead.1, lastText, Option.or_assoc]

/-- Whatever conditions an evaluator settles one after another, if no number is bound at first: each
search starts from what the one before it has left. A search that fails changes nothing. After a
match, each of the numbers up to nine is bound to the text of its group or, if that took no part, to
what the last earlier match in which it took part has left; and the names of groups that took part
are bound to their texts. So the numbers tell of this match alone exactly if no group that took no
part in it did so in an earlier one. -/
theorem searches_bind (evaluator : Evaluator) (conditions : List Condition)
    (unbound : ∀ index < 10, evaluator.context.bindings.get? (toString index) = none) :
    Lead evaluator.context (inTurn evaluator conditions) (settleAll evaluator conditions).context ∧
    ∀ earlier search later, inTurn evaluator conditions = earlier ++ search :: later →
      (search.captures? = none → search.after = search.before) ∧
      ∀ captures, search.captures? = some captures →
        (∀ index < 10, search.after.bindings.get? (toString index) =
          (captures.group? index).or (lastText index earlier)) ∧
        (∀ index name text, (index, name) ∈ captures.names → captures.group? index = some text →
          search.after.bindings.get? name = some text) ∧
        ((∀ index < 10, search.after.bindings.get? (toString index) = captures.group? index) ↔
          ∀ index < 10, captures.group? index = none → lastText index earlier = none) := by
  have lead := lead_in_turn evaluator conditions
  refine ⟨lead, fun earlier search later split => ⟨after_of_missed, fun captures found => ?_⟩⟩
  rw [split] at lead
  have numbers : ∀ index < 10, search.after.bindings.get? (toString index) =
      (captures.group? index).or (lastText index earlier) := by
    intro index below
    rw [number_after search below, number_before lead below, unbound index below, Option.or_none,
      Search.groupText, found, Option.bind_some]
  refine ⟨numbers, fun index name text held took => named_after found held took, ?_⟩
  constructor
  · intro own index below absent
    have left := numbers index below
    rw [own index below, absent, Option.none_or] at left
    exact left.symm
  · intro fresh index below
    rw [numbers index below]
    cases took : captures.group? index with
    | some text => rfl
    | none => rw [fresh index below took]; rfl

instance : DecidableEq Captures := fun first second =>
  decidable_of_iff (first.groups = second.groups ∧ first.names = second.names) (by
    cases first
    cases second
    simp)

/-- A match in which one of two groups takes no part, and a search that fails. -/
theorem searches_bind_missed :
    let evaluator : Evaluator := .ofContext
      { Context.ofSettings .standard with bindings := .ofList [("a", "xy"), ("b", "z")] }
    (∀ index < 10, evaluator.context.bindings.get? (toString index) = none) ∧
    ∃ condition found missed,
      Condition.parse "$a =~ /x(?P<_>y)(z)?/ && $b =~ /x/" = .ok condition ∧
      inTurn evaluator [condition] = [found, missed] ∧
      found.captures? = some ⟨[some "xy", some "y", none], [(1, "_")]⟩ ∧
      missed.captures? = none ∧ missed.after = missed.before ∧
      found.after.bindings.get? "1" = some "y" ∧ found.after.bindings.get? "2" = none ∧
      found.after.bindings.get? "_" = some "y" := by
  intro evaluator
  have unbound : ∀ index < 10, evaluator.context.bindings.get? (toString index) = none := by
    decide +kernel
  obtain ⟨condition, parsed, seen⟩ : ∃ condition,
      Condition.parse "$a =~ /x(?P<_>y)(z)?/ && $b =~ /x/" = .ok condition ∧
      (inTurn evaluator [condition]).map Search.captures? =
        [some ⟨[some "xy", some "y", none], [(1, "_")]⟩, none] :=
    ok_of_to_option (by decide +kernel)
  obtain ⟨found, others, split, matched, seen⟩ := List.map_eq_cons_iff.1 seen
  obtain ⟨missed, rest, rfl, lost, seen⟩ := List.map_eq_cons_iff.1 seen
  obtain rfl := List.map_eq_nil_iff.1 seen
  have laws := (searches_bind evaluator [condition] unbound).2
  obtain ⟨numbers, named, -⟩ := (laws [] found [missed] split).2 _ matched
  exact ⟨unbound, condition, found, missed, parsed, split, matched, lost,
    (laws [found] missed [] split).1 lost, numbers 1 (by decide), numbers 2 (by decide),
    named 1 "_" "y" List.mem_cons_self rfl⟩

/-- A text that a group has left is bound to its number still after a match in which it took no
part. -/
theorem searches_bind_left_over :
    let evaluator : Evaluator := .ofContext
      { Context.ofSettings .standard with bindings := .ofList [("a", "xy"), ("b", "x")] }
    (∀ index < 10, evaluator.context.bindings.get? (toString index) = none) ∧
    ∃ condition, Condition.parse "$a =~ /x(y)?/ && $b =~ /x(y)?/" = .ok condition ∧
      ∃ search ∈ inTurn evaluator [condition], ∃ captures, search.captures? = some captures ∧
        captures.group? 1 = none ∧ search.after.bindings.get? "1" = some "y" := by
  intro evaluator
  obtain ⟨condition, parsed, seen⟩ : ∃ condition,
      Condition.parse "$a =~ /x(y)?/ && $b =~ /x(y)?/" = .ok condition ∧
      (inTurn evaluator [condition]).map (fun search =>
        (search.captures?, search.after.bindings.get? "1")) =
        [(some ⟨[some "xy", some "y"], []⟩, some "y"), (some ⟨[some "x", none], []⟩, some "y")] :=
    ok_of_to_option (by decide +kernel)
  obtain ⟨first, others, split, -, seen⟩ := List.map_eq_cons_iff.1 seen
  obtain ⟨second, rest, rfl, both, -⟩ := List.map_eq_cons_iff.1 seen
  obtain ⟨matched, bound⟩ := Prod.mk.inj both
  have made : second ∈ inTurn evaluator [condition] := by simp [split]
  exact ⟨by decide +kernel, condition, parsed, second, made, _, matched, rfl, bound⟩

end ServerIncludes.Searches
