import ServerIncludes.Proofs.Evaluation.Questions
import ServerIncludes.Proofs.Evaluation.Session
import ServerIncludes.Proofs.Evaluation.Termination

/-! What happens to a context, access by access: names that the fallback source is asked for, times
that cannot be written, values that are stored, settings that are changed. The accesses of a run lead
from the context at its start to the one at its end, they hold its look-ups in order, no name is looked
up that has a value already, and times fail in the format in force. Each of them is one that a node of
the tree makes, or a condition. -/
namespace ServerIncludes.Accesses

open Plans Questions
open Sessions

inductive Access where
  /-- The fallback source is asked for a name. -/
  | lookup (name : String)
  /-- A time is to be written and cannot be. -/
  | unwritable (format : String)
  | store (name value : String)
  | configure (errorMessage missingMessage : Option String) (sizeFormat : Option SizeFormat)
      (timeFormat : Option String)

namespace Access

def apply (context : Context) : Access → Context
  | lookup _ => context
  | unwritable _ => context
  | store name value => context.set name value
  | configure errorMessage missingMessage sizeFormat timeFormat =>
    changeSettings errorMessage missingMessage sizeFormat timeFormat context

def ofLookup : Lookup → Access
  | .fallback name => lookup name
  | .unwritable format => unwritable format

def lookup? : Access → Option Lookup
  | lookup name => some (.fallback name)
  | unwritable format => some (.unwritable format)
  | _ => none

/-- Only a name that has no value is looked up, and only the format in force fails. -/
def Due (context : Context) : Access → Prop
  | lookup name => context.bindings.get? name = none ∧ context.date? name = none
  | unwritable format => format = context.settings.timeFormat ∧
    (TimeFormat.ofText format).isWritable = false
  | _ => True

end Access

/-- The context after some accesses. -/
def replay (context : Context) (accesses : List Access) : Context :=
  accesses.foldl Access.apply context

/-- What asking the context has left behind. -/
def lookups (accesses : List Access) : List Lookup := accesses.filterMap Access.lookup?

/-- Accesses that are due, each in the context that those before it have left. -/
def AllDue : Context → List Access → Prop
  | _, [] => True
  | context, access :: later => access.Due context ∧ AllDue (access.apply context) later

/-- Accesses that lead from one context to another, with these look-ups on the way. -/
structure Leads (context : Context) (accesses : List Access) (after : Context)
    (asked : List Lookup) : Prop where
  after : replay context accesses = after
  asked : lookups accesses = asked
  due : AllDue context accesses

theorem replay_append (context : Context) (first second : List Access) :
    replay context (first ++ second) = replay (replay context first) second :=
  List.foldl_append

theorem lookups_append (first second : List Access) :
    lookups (first ++ second) = lookups first ++ lookups second := List.filterMap_append

theorem all_due_append {context : Context} {first second : List Access} :
    AllDue context (first ++ second) ↔
      AllDue context first ∧ AllDue (replay context first) second := by
  induction first generalizing context with
  | nil => simp [AllDue, replay]
  | cons access first ih =>
    simp only [List.cons_append, AllDue, ih, and_assoc]
    rfl

theorem leads_nil (context : Context) : Leads context [] context [] := ⟨rfl, rfl, trivial⟩

theorem leads_append (first : Leads context accesses middle asked)
    (second : Leads middle accesses' after asked') :
    Leads context (accesses ++ accesses') after (asked ++ asked') where
  after := by rw [replay_append, first.after, second.after]
  asked := by rw [lookups_append, first.asked, second.asked]
  due := all_due_append.2 ⟨first.due, first.after.symm ▸ second.due⟩

/-! ## Accesses of queries -/

/-- The accesses that a query makes, whatever the context is. -/
def Tracks (accesses : Context → List Access) (query : Query α) : Prop :=
  ∀ context, Leads context (accesses context) (query context).context (query context).lookups

theorem leads_timed (context : Context) (zone : Zone) (instant : Instant) :
    Leads context ((context.timed zone instant).2.map .ofLookup) context
      (context.timed zone instant).2 := by
  unfold Context.timed
  cases written : context.settings.writeTime zone instant with
  | some text => exact leads_nil context
  | none =>
    have fails : (TimeFormat.ofText context.settings.timeFormat).isWritable = false := by
      rw [← TimeFormat.isSome_write _ zone instant]
      exact congrArg Option.isSome written
    exact ⟨rfl, rfl, ⟨rfl, fails⟩, trivial⟩

theorem leads_asked (context : Context) (name : String) :
    Leads context ((context.asked name).map .ofLookup) context (context.asked name) := by
  unfold Context.asked
  split
  · exact leads_nil context
  · next unbound =>
    have free : context.bindings.get? name = none := by simpa using unbound
    cases shown : context.zone? name with
    | some zone => exact leads_timed context zone context.now
    | none =>
      have notDate : context.date? name = none := by simp only [Context.date?, shown, Option.map_none]
      cases context.fallback with
      | none => exact leads_nil context
      | some source => exact ⟨rfl, rfl, ⟨free, notDate⟩, trivial⟩

theorem leads_asked_all (context : Context) (asked : List String) :
    Leads context ((asked.flatMap context.asked).map .ofLookup) context
      (asked.flatMap context.asked) := by
  induction asked with
  | nil => exact leads_nil context
  | cons name rest ih =>
    rw [List.flatMap_cons, List.map_append]
    exact leads_append (leads_asked context name) ih

theorem leads_store (context : Context) (name value : String) :
    Leads context [.store name value] (context.set name value) [] := ⟨rfl, rfl, trivial, trivial⟩

theorem leads_stores (context : Context) (pairs : List (String × String)) :
    Leads context (pairs.map fun pair => .store pair.1 pair.2)
      { context with bindings := context.bindings.setAll pairs } [] := by
  induction pairs generalizing context with
  | nil => exact leads_nil context
  | cons pair rest ih => exact leads_append (leads_store context pair.1 pair.2) (ih _)

theorem tracks_pure (value : α) : Tracks (fun _ => []) (pure value : Query α) := leads_nil

theorem tracks_bind {query : Query α} {next : α → Query β}
    {further : α → Context → List Access} (first : Tracks accesses query)
    (later : ∀ value, Tracks (further value) (next value)) :
    Tracks (fun context => accesses context ++
      further (query context).value (query context).context) (query >>= next) :=
  fun context => leads_append (first context) (later _ _)

/-- What is made of an answer makes no accesses of its own. -/
theorem tracks_map {query : Query α} {next : α → Query β} (first : Tracks accesses query)
    (later : ∀ value, Tracks (fun _ => []) (next value)) : Tracks accesses (query >>= next) := by
  intro context
  rw [← List.append_nil (accesses context)]
  exact leads_append (first context) (later _ _)

theorem tracks_ite {query query' : Query α} (holds : Bool) (first : Tracks accesses query)
    (second : Tracks accesses' query') :
    Tracks (fun context => if holds then accesses context else accesses' context)
      (if holds then query else query') := by
  cases holds with
  | true => exact first
  | false => exact second

/-- The accesses of looking for a pattern: stores of the groups, if it is found. -/
def captured (pattern : Pattern) (subject : String) : List Access :=
  match pattern.search subject with
  | none => []
  | some captures => captures.bindings.map fun pair => .store pair.1 pair.2

theorem tracks_find (pattern : Pattern) (subject : String) :
    Tracks (fun _ => captured pattern subject) (Condition.find pattern subject) := by
  unfold captured Condition.find
  cases pattern.search subject with
  | none => exact tracks_pure false
  | some captures =>
    exact tracks_map (fun context => leads_stores context captures.bindings) fun _ => tracks_pure true

/-- The accesses of settling a condition, which are those of finding its value as well. -/
def ofCondition : Condition → Context → List Access
  | .literal text, context => (context.askedBy text).map .ofLookup
  | .reference name, context => (context.asked name).map .ofLookup
  | .compare _ left right, context =>
    ofCondition left context ++ ofCondition right (left.meaning.value context).context
  | .search _ subject pattern, context =>
    ofCondition subject context ++ captured pattern (subject.meaning.value context).value
  | .not negated, context => ofCondition negated context
  | .and left right, context =>
    ofCondition left context ++ if (left.meaning.truth context).value then
      ofCondition right (left.meaning.truth context).context else []
  | .or left right, context =>
    ofCondition left context ++ if (left.meaning.truth context).value then [] else
      ofCondition right (left.meaning.truth context).context
  | .group grouped, context => ofCondition grouped context

theorem tracks_of_value {query : Query String} (tracks : Tracks accesses query) :
    Tracks accesses (Meaning.ofValue query).truth ∧ Tracks accesses (Meaning.ofValue query).value :=
  ⟨tracks_map tracks fun _ => tracks_pure _, tracks⟩

theorem tracks_of_truth {query : Query Bool} (tracks : Tracks accesses query) :
    Tracks accesses (Meaning.ofTruth query).truth ∧ Tracks accesses (Meaning.ofTruth query).value := by
  refine ⟨tracks, tracks_map tracks fun holds => ?_⟩
  cases holds with
  | true => exact tracks_pure _
  | false => exact tracks_pure _

theorem tracks_condition (condition : Condition) :
    Tracks (ofCondition condition) condition.meaning.truth ∧
      Tracks (ofCondition condition) condition.meaning.value := by
  induction condition with
  | literal text => exact tracks_of_value fun context => leads_asked_all context text.markers
  | reference name =>
    exact tracks_of_value (tracks_map (fun context => leads_asked context name) fun _ => tracks_pure _)
  | compare comparison left right first second =>
    apply tracks_of_truth
    exact tracks_bind first.2 fun _ => tracks_map second.2 fun _ => tracks_pure _
  | search expected subject pattern ih =>
    apply tracks_of_truth
    exact tracks_bind ih.2 fun text => tracks_map (tracks_find pattern text) fun _ => tracks_pure _
  | not negated ih => exact tracks_of_truth (tracks_map ih.1 fun _ => tracks_pure _)
  | and left right first second =>
    have both := tracks_bind first.1 fun holds => tracks_ite holds second.1 (tracks_pure false)
    exact tracks_of_truth both
  | or left right first second =>
    have both := tracks_bind first.1 fun holds => tracks_ite holds (tracks_pure true) second.1
    exact tracks_of_truth both
  | group grouped ih => exact ih

/-! ## Accesses of runs -/

section

variable {names : List String} {resolver : Resolver}

def ofStep : Step names α → Context → List Access
  | .substitute template, context => (context.askedBy template).map .ofLookup
  | .get? name, context => (context.asked name).map .ofLookup
  | .truth condition, context => ofCondition condition context
  | .writeTime zone instant, context => (context.timed zone instant).2.map .ofLookup
  | .assign name value, _ => [.store name value]
  | .configure errorMessage missingMessage sizeFormat timeFormat, _ =>
    [.configure errorMessage missingMessage sizeFormat timeFormat]
  | _, _ => []

/-- The accesses that are made when a plan is carried out. -/
def ofPlan (resolver : Resolver) : Plan names α → EvalState names → List Access
  | .done _, _ => []
  | .step node first next, state =>
    ofStep first state.context ++
      onwards (first.run resolver (siteOf node) state) fun answer later =>
        ofPlan resolver (next answer) later
  | .inside _ body next, state =>
    ofPlan resolver body state ++
      onwards (Run.capture (body.run resolver) state) fun bytes later =>
        ofPlan resolver (next bytes) later

/-- The accesses of an outcome are those from the context before it to the one after it. -/
def Accounts (state : EvalState names) (accesses : List Access) (outcome : Outcome names α) : Prop :=
  Leads state.context accesses outcome.state.context outcome.log.lookups

theorem accounts_bind {step : Run names α} {next : α → Run names β}
    {further : α → EvalState names → List Access}
    (first : Accounts state accesses (step state))
    (later : ∀ value, Accounts (step state).state (further value (step state).state)
      (next value (step state).state)) :
    Accounts state (accesses ++ onwards (step state) further) ((step >>= next) state) := by
  unfold onwards
  cases ended : (step state).result with
  | error abort =>
    rw [bind_of_error ended, List.append_nil]
    exact first
  | ok value =>
    rw [bind_of_ok ended]
    exact leads_append first (later value)

theorem accounts_consult (call : ResolverCall)
    (answer : List ResolverCall → Except ResolveError α) (site : Site) (state : EvalState names) :
    Accounts state [] (Run.consult call answer site state) := by
  unfold Run.consult
  cases answer state.history with
  | ok value => exact leads_nil state.context
  | error error => cases error <;> exact leads_nil state.context

theorem accounts_step (site : Site) (step : Step names α) (state : EvalState names) :
    Accounts state (ofStep step state.context) (step.run resolver site state) := by
  cases step with
  | substitute template => exact leads_asked_all state.context template.markers
  | get? name => exact leads_asked state.context name
  | truth condition => exact (tracks_condition condition).1 state.context
  | writeTime zone instant => exact leads_timed state.context zone instant
  | assign name value => exact leads_store state.context name value
  | configure errorMessage missingMessage sizeFormat timeFormat => exact ⟨rfl, rfl, trivial, trivial⟩
  | resolve target => exact accounts_consult _ _ site state
  | metadata target => exact accounts_consult _ _ site state
  | _ => exact leads_nil state.context

theorem accounts_run (plan : Plan names α) (state : EvalState names) :
    Accounts state (ofPlan resolver plan state) (plan.run resolver state) := by
  induction plan generalizing state with
  | done value => exact leads_nil state.context
  | step node first next ih =>
    exact accounts_bind (accounts_step (siteOf node) first state) fun answer => ih answer _
  | inside name body next within ih =>
    have captured : Accounts state (ofPlan resolver body state)
        (Run.capture (body.run resolver) state) := within state
    exact accounts_bind captured fun bytes => ih bytes _

end

/-! ## Who makes an access -/

/-- A pattern that is found binds numbers below ten and the names of its groups. -/
def MayBind (name : String) (pattern : Pattern) : Prop :=
  (∃ index < 10, name = toString index) ∨ name ∈ pattern.compiled.names.map (·.2)

/-- A condition looks for a pattern that binds a name. -/
def MayCapture (name : String) : Condition → Prop
  | .literal _ => False
  | .reference _ => False
  | .compare _ left right => MayCapture name left ∨ MayCapture name right
  | .search _ subject pattern => MayCapture name subject ∨ MayBind name pattern
  | .not negated => MayCapture name negated
  | .and left right => MayCapture name left ∨ MayCapture name right
  | .or left right => MayCapture name left ∨ MayCapture name right
  | .group grouped => MayCapture name grouped

/-- Whatever text a match binds, it does so under a number below ten or the name of a group. -/
theorem named_of_bindings {captures : Captures} (bound : (name, value) ∈ captures.bindings) :
    (∃ index < 10, name = toString index) ∨ name ∈ captures.names.map (·.2) := by
  rcases List.mem_append.1 bound with numbered | named
  · obtain ⟨index, below, held⟩ := List.mem_filterMap.1 numbered
    obtain ⟨text, -, same⟩ := Option.map_eq_some_iff.1 held
    cases same
    exact .inl ⟨index, List.mem_range.1 below, rfl⟩
  · obtain ⟨⟨index, group⟩, member, held⟩ := List.mem_filterMap.1 named
    obtain ⟨text, -, same⟩ := Option.map_eq_some_iff.1 held
    cases same
    exact .inr (List.mem_map_of_mem member)

theorem stores_of_captured {pattern : Pattern} {subject : String} :
    ∀ access ∈ captured pattern subject, ∃ name value, access = .store name value ∧
      MayBind name pattern := by
  intro access member
  unfold captured Pattern.search at member
  cases found : pattern.compiled.program.search pattern.compiled.groups subject with
  | none =>
    rw [found] at member
    cases member
  | some groups =>
    rw [found] at member
    obtain ⟨⟨name, value⟩, bound, rfl⟩ := List.mem_map.1 member
    exact ⟨name, value, rfl, named_of_bindings bound⟩

/-- What a condition may do to a context: ask for names and dates, and store under the names that it
captures. -/
def ByCondition (condition : Condition) : Access → Prop
  | .lookup _ => True
  | .unwritable _ => True
  | .store name _ => MayCapture name condition
  | .configure .. => False

theorem by_condition_mono {other : Condition}
    (more : ∀ name, MayCapture name condition → MayCapture name other) :
    ∀ {access}, ByCondition condition access → ByCondition other access
  | .lookup _, _ => trivial
  | .unwritable _, _ => trivial
  | .store name _, stored => more name stored

/-- Look-ups ask for names, and for times that cannot be written. -/
theorem forall_mem_lookups {fits : Access → Prop} (named : ∀ name, fits (.lookup name))
    (timed : ∀ format, fits (.unwritable format)) (asked : List Lookup) :
    ∀ access ∈ asked.map Access.ofLookup, fits access := by
  intro access member
  obtain ⟨lookup, -, rfl⟩ := List.mem_map.1 member
  cases lookup with
  | fallback name => exact named name
  | unwritable format => exact timed format

theorem by_condition_of_lookups (asked : List Lookup) :
    ∀ access ∈ asked.map Access.ofLookup, ByCondition condition access :=
  forall_mem_lookups (fun _ => trivial) (fun _ => trivial) asked

/-- A condition makes no accesses but its own. -/
theorem made_of_condition (condition : Condition) (context : Context) :
    ∀ access ∈ ofCondition condition context, ByCondition condition access := by
  induction condition generalizing context with
  | literal text => exact by_condition_of_lookups _
  | reference name => exact by_condition_of_lookups _
  | compare comparison left right first second =>
    refine List.forall_mem_append.2 ⟨?_, ?_⟩
    · exact fun access member => by_condition_mono (fun _ => Or.inl) (first context access member)
    · exact fun access member => by_condition_mono (fun _ => Or.inr) (second _ access member)
  | search expected subject pattern ih =>
    refine List.forall_mem_append.2 ⟨?_, ?_⟩
    · exact fun access member => by_condition_mono (fun _ => Or.inl) (ih context access member)
    · intro access member
      obtain ⟨name, value, rfl, binds⟩ := stores_of_captured access member
      exact .inr binds
  | not negated ih =>
    exact fun access member => by_condition_mono (fun _ => id) (ih context access member)
  | and left right first second =>
    refine List.forall_mem_append.2 ⟨?_, ?_⟩
    · exact fun access member => by_condition_mono (fun _ => Or.inl) (first context access member)
    · intro access member
      split at member
      · exact by_condition_mono (fun _ => Or.inr) (second _ access member)
      · cases member
  | or left right first second =>
    refine List.forall_mem_append.2 ⟨?_, ?_⟩
    · exact fun access member => by_condition_mono (fun _ => Or.inl) (first context access member)
    · intro access member
      split at member
      · cases member
      · exact by_condition_mono (fun _ => Or.inr) (second _ access member)
  | group grouped ih =>
    exact fun access member => by_condition_mono (fun _ => id) (ih context access member)

/-- What a node may do to a context: ask for names and times, store under the names that it gives or
that its conditions capture, and change the settings that it gives. -/
def ByNode (node : Node) : Access → Prop
  | .lookup _ => True
  | .unwritable _ => True
  | .store name _ => Stores node name ∨ ∃ condition ∈ conditions node, MayCapture name condition
  | .configure errorMessage missingMessage sizeFormat timeFormat =>
    Configures node errorMessage missingMessage sizeFormat timeFormat

section

variable {names : List String} {resolver : Resolver} {tree : List Node}

theorem by_node_of_lookups (asked : List Lookup) :
    ∀ access ∈ asked.map Access.ofLookup, ByNode node access :=
  forall_mem_lookups (fun _ => trivial) (fun _ => trivial) asked

theorem made_of_step {step : Step names α} (does : Does node step) (context : Context) :
    ∀ access ∈ ofStep step context, ByNode node access := by
  intro access member
  cases step with
  | substitute template => exact by_node_of_lookups _ access member
  | get? name => exact by_node_of_lookups _ access member
  | writeTime zone instant => exact by_node_of_lookups _ access member
  | truth condition =>
    have made := made_of_condition condition context access member
    cases access with
    | lookup name => trivial
    | unwritable format => trivial
    | store name value => exact .inr ⟨condition, does, made⟩
    | configure => exact made.elim
  | assign name value =>
    cases List.mem_singleton.1 member
    exact .inl does
  | configure errorMessage missingMessage sizeFormat timeFormat =>
    cases List.mem_singleton.1 member
    exact does
  | _ => cases member

/-- The accesses of a plan that stays within a tree are made by nodes of the tree. -/
theorem made_of_stays {plan : Plan names α} (stays : Stays tree plan expected)
    (known : Known tree state) :
    ∀ access ∈ ofPlan resolver plan state, ∃ node, Has tree node ∧ ByNode node access := by
  induction plan generalizing state with
  | done value => exact nofun
  | step node first next ih =>
    obtain ⟨still, answered⟩ := known_step resolver (siteOf node) stays.1 known
    refine List.forall_mem_append.2 ⟨?_, ?_⟩
    · intro access member
      exact ⟨node, stays.1.1, made_of_step stays.1.2 state.context access member⟩
    · apply forall_mem_onwards
      intro answer ended
      exact ih answer (stays.2 answer (answered answer ended)) still
  | inside name body next within ih =>
    refine List.forall_mem_append.2 ⟨within stays.1 known, ?_⟩
    apply forall_mem_onwards
    intro bytes _
    exact ih bytes (stays.2 bytes) (known_of_stays stays.1 known)

end

end ServerIncludes.Accesses
