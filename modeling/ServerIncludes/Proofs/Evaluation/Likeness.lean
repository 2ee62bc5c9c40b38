import ServerIncludes.Proofs.Evaluation.Failures

/-! Two evaluations side by side. A likeness tells how far the two may be apart: in their contexts, in
what is written, in the bodies of blocks, and in where things are reported. Steps that keep to it lead
from alike states to alike states, and what they leave in the logs is alike. A directive keeps to a
likeness if the two contexts give the same values for all names that it reads. -/
namespace ServerIncludes.Likenesses

open Failures Plans Questions
open Run (free free_cons_lt)

structure Likeness where
  contexts : Context → Context → Prop
  outputs : Bytes → Bytes → Prop
  bodies : List Node → List Node → Prop
  sites : Site → Site → Prop
  settings_eq : contexts context context' → context.settings = context'.settings
  set_alike : contexts context context' → ∀ name value,
    contexts (context.set name value) (context'.set name value)
  configure_alike : contexts context context' → ∀ errorMessage missingMessage sizeFormat timeFormat,
    contexts (changeSettings errorMessage missingMessage sizeFormat timeFormat context)
      (changeSettings errorMessage missingMessage sizeFormat timeFormat context')
  output_refl : ∀ bytes, outputs bytes bytes
  output_append : outputs first first' → outputs second second' →
    outputs (first ++ second) (first' ++ second')

variable {likeness : Likeness} {names names' : List String}

/-- Blocks of one name whose bodies are alike. -/
structure AlikeBlocks (likeness : Likeness) (block : DefinedBlock names)
    (block' : DefinedBlock names') : Prop where
  name : block.name = block'.name
  body : likeness.bodies block.body block'.body

structure AlikeStates (likeness : Likeness) (state : EvalState names) (state' : EvalState names') :
    Prop where
  contexts : likeness.contexts state.context state'.context
  blocks : List.Forall₂ (AlikeBlocks likeness) state.blocks state'.blocks
  history : state.history = state'.history

/-- Faults of the same cause at alike sites. -/
structure AlikeFaults (likeness : Likeness) (fault fault' : Fault) : Prop where
  site : likeness.sites fault.site fault'.site
  cause : fault.cause = fault'.cause

/-- Logs with the same calls and look-ups, alike in all else. -/
structure AlikeLogs (likeness : Likeness) (log log' : Log) : Prop where
  output : likeness.outputs log.output log'.output
  faults : List.Forall₂ (AlikeFaults likeness) log.faults log'.faults
  calls : log.calls = log'.calls
  lookups : log.lookups = log'.lookups

/-- Results of which both are values that belong together, or the same fatal answer. -/
inductive AlikeResults (likeness : Likeness) (values : α → β → Prop) :
    Except Abort α → Except Abort β → Prop where
  | ok (fit : values value value') : AlikeResults likeness values (.ok value) (.ok value')
  | error (site : likeness.sites abort.site abort'.site) (error : abort.error = abort'.error) :
    AlikeResults likeness values (.error abort) (.error abort')

structure AlikeOutcomes (likeness : Likeness) (values : α → β → Prop) (outcome : Outcome names α)
    (outcome' : Outcome names' β) : Prop where
  result : AlikeResults likeness values outcome.result outcome'.result
  state : AlikeStates likeness outcome.state outcome'.state
  log : AlikeLogs likeness outcome.log outcome'.log

/-- Steps that lead from alike states to alike outcomes. -/
def Alike (likeness : Likeness) (values : α → β → Prop) (step : Run names α)
    (step' : Run names' β) : Prop :=
  ∀ state state', AlikeStates likeness state state' →
    AlikeOutcomes likeness values (step state) (step' state')

theorem alike_logs_empty : AlikeLogs likeness .empty .empty :=
  ⟨likeness.output_refl _, .nil, rfl, rfl⟩

theorem alike_logs_append (first : AlikeLogs likeness log log')
    (second : AlikeLogs likeness later later') :
    AlikeLogs likeness (log ++ later) (log' ++ later') where
  output := likeness.output_append first.output second.output
  faults := List.rel_append first.faults second.faults
  calls := congrArg₂ (· ++ ·) first.calls second.calls
  lookups := congrArg₂ (· ++ ·) first.lookups second.lookups

theorem alike_logs_silent (logs : AlikeLogs likeness log log') :
    AlikeLogs likeness log.silent log'.silent :=
  ⟨likeness.output_refl _, logs.faults, logs.calls, logs.lookups⟩

theorem alike_logs_output (outputs : likeness.outputs bytes bytes') :
    AlikeLogs likeness { Log.empty with output := bytes } { Log.empty with output := bytes' } :=
  ⟨outputs, .nil, rfl, rfl⟩

theorem alike_pure {values : α → β → Prop} (fit : values value value') :
    Alike likeness values (pure value : Run names α) (pure value' : Run names' β) :=
  fun _ _ states => ⟨.ok fit, states, alike_logs_empty⟩

theorem alike_bind {step : Run names α} {step' : Run names' β} {next : α → Run names γ}
    {next' : β → Run names' δ} {between : α → β → Prop} {values : γ → δ → Prop}
    (first : Alike likeness between step step')
    (later : ∀ value value', between value value' →
      Alike likeness values (next value) (next' value')) :
    Alike likeness values (step >>= next) (step' >>= next') := by
  intro state state' states
  obtain ⟨result, after, log⟩ := first state state' states
  cases ended : (step state).result with
  | error abort =>
    rw [ended] at result
    cases ended' : (step' state').result with
    | error abort' =>
      rw [ended'] at result
      rw [bind_of_error ended, bind_of_error ended']
      cases result with
      | error site error => exact ⟨.error site error, after, log⟩
    | ok value' =>
      rw [ended'] at result
      cases result
  | ok value =>
    rw [ended] at result
    cases ended' : (step' state').result with
    | error abort' =>
      rw [ended'] at result
      cases result
    | ok value' =>
      rw [ended'] at result
      rw [bind_of_ok ended, bind_of_ok ended']
      cases result with
      | ok fit =>
        obtain ⟨result, final, more⟩ := later value value' fit _ _ after
        exact ⟨result, final, alike_logs_append log more⟩

/-- After a step with the same value on both sides, what comes next starts from that value. -/
theorem alike_bind_same {step : Run names α} {step' : Run names' α} {next : α → Run names β}
    {next' : α → Run names' γ} {values : β → γ → Prop} (first : Alike likeness Eq step step')
    (later : ∀ value, Alike likeness values (next value) (next' value)) :
    Alike likeness values (step >>= next) (step' >>= next') := by
  apply alike_bind first
  rintro value _ rfl
  exact later value

/-- The output of a block is a value like any other output. -/
theorem alike_capture {values : Unit → Unit → Prop} {step : Run names Unit} {step' : Run names' Unit}
    (inside : Alike likeness values step step') :
    Alike likeness likeness.outputs (Run.capture step) (Run.capture step') := by
  intro state state' states
  obtain ⟨result, after, log⟩ := inside state state' states
  refine ⟨?_, after, alike_logs_silent log⟩
  show AlikeResults likeness _ ((step state).result.map fun _ => (step state).log.output)
    ((step' state').result.map fun _ => (step' state').log.output)
  generalize (step state).result = ended at result
  generalize (step' state').result = ended' at result
  cases result with
  | ok fit => exact .ok log.output
  | error site error => exact .error site error

/-! ## Single steps -/

theorem alike_look {read : Context → α} (same : ∀ {context context'},
    likeness.contexts context context' → read context = read context') :
    Alike likeness Eq (Run.look read : Run names α) (Run.look read : Run names' α) :=
  fun _ _ states => ⟨.ok (same states.contexts), states, alike_logs_empty⟩

theorem alike_change {update : Context → Context} (keeps : ∀ {context context'},
    likeness.contexts context context' → likeness.contexts (update context) (update context')) :
    Alike likeness Eq (Run.change update : Run names Unit) (Run.change update : Run names' Unit) :=
  fun _ _ states =>
    ⟨.ok rfl, ⟨keeps states.contexts, states.blocks, states.history⟩, alike_logs_empty⟩

theorem alike_emit (outputs : likeness.outputs bytes bytes') :
    Alike likeness Eq (Run.emit bytes : Run names Unit) (Run.emit bytes' : Run names' Unit) :=
  fun _ _ states => ⟨.ok rfl, states, alike_logs_output outputs⟩

theorem alike_emit_text (text : String) :
    Alike likeness Eq (Run.emitText text : Run names Unit) (Run.emitText text : Run names' Unit) :=
  alike_emit (likeness.output_refl _)

theorem alike_record (sites : likeness.sites site site') (cause : FaultCause) :
    Alike likeness Eq (Run.record site cause : Run names Unit)
      (Run.record site' cause : Run names' Unit) :=
  fun _ _ states => ⟨.ok rfl, states, likeness.output_refl _, .cons ⟨sites, rfl⟩ .nil, rfl, rfl⟩

/-- Answers of which both are values that belong together, or the same failure. -/
inductive AlikeAnswers (values : α → β → Prop) :
    Except ResolveError α → Except ResolveError β → Prop where
  | ok (fit : values value value') : AlikeAnswers values (.ok value) (.ok value')
  | error (error : ResolveError) : AlikeAnswers values (.error error) (.error error)

theorem alike_consult {values : α → β → Prop} {answer : List ResolverCall → Except ResolveError α}
    {answer' : List ResolverCall → Except ResolveError β} (call : ResolverCall)
    (answers : ∀ earlier, AlikeAnswers values (answer earlier) (answer' earlier))
    (sites : likeness.sites site site') :
    Alike likeness (Option.Rel values) (Run.consult call answer site : Run names (Option α))
      (Run.consult call answer' site' : Run names' (Option β)) := by
  intro state state' states
  -- the question is added to those that were asked, whatever the answer is
  have asked : AlikeStates likeness { state with history := state.history ++ [call] }
      { state' with history := state'.history ++ [call] } :=
    ⟨states.contexts, states.blocks, congrArg (· ++ [call]) states.history⟩
  have both := answers state.history
  unfold Run.consult
  rw [← states.history] at *
  generalize answer state.history = given at both
  generalize answer' state.history = given' at both
  cases both with
  | ok fit => exact ⟨.ok (.some fit), asked, likeness.output_refl _, .nil, rfl, rfl⟩
  | error error =>
    by_cases fatal : error.isFatal
    · simp only [fatal, if_true]
      exact ⟨.error sites rfl, asked, likeness.output_refl _, .nil, rfl, rfl⟩
    · simp only [fatal, Bool.false_eq_true, if_false]
      exact ⟨.ok .none, asked, likeness.output_refl _, .cons ⟨sites, rfl⟩ .nil, rfl, rfl⟩

/-- The blocks found under a name are alike, if there are any. -/
theorem alike_find {blocks : List (DefinedBlock names)} {blocks' : List (DefinedBlock names')}
    (alike : List.Forall₂ (AlikeBlocks likeness) blocks blocks') (name : String) :
    Option.Rel (AlikeBlocks likeness) (blocks.find? (·.name == name))
      (blocks'.find? (·.name == name)) := by
  induction alike with
  | nil => exact .none
  | cons first _ ih =>
    simp only [List.find?_cons, ← first.name]
    split
    · exact .some first
    · exact ih

theorem alike_block? (name : String) :
    Alike likeness (Option.Rel (AlikeBlocks likeness)) (Run.block? name : Run names _)
      (Run.block? name : Run names' _) :=
  fun _ _ states => ⟨.ok (alike_find states.blocks name), states, alike_logs_empty⟩

theorem alike_define {block : DefinedBlock names} {block' : DefinedBlock names'}
    (blocks : AlikeBlocks likeness block block') :
    Alike likeness Eq (Run.define block) (Run.define block') := by
  intro state state' states
  refine ⟨.ok rfl, ⟨states.contexts, .cons blocks ?_, states.history⟩, alike_logs_empty⟩
  have others := states.blocks
  generalize state.blocks = held at others
  generalize state'.blocks = held' at others
  induction others with
  | nil => exact .nil
  | cons first _ ih =>
    simp only [List.filter_cons, ← first.name, ← blocks.name] at ih ⊢
    split
    · exact .cons first ih
    · exact ih

/-! ## What is read -/

/-- A name stands for the same in alike contexts, and looking it up leaves the same behind: the
fallback source is asked for it in both of them or in neither. -/
def Common (likeness : Likeness) (name : String) : Prop :=
  ∀ ⦃context context'⦄, likeness.contexts context context' →
    context.get? name = context'.get? name ∧ context.asked name = context'.asked name

/-- The names that a condition reads. -/
def conditionReads : Condition → List String
  | .literal text => text.markers
  | .reference name => [name]
  | .compare _ left right => conditionReads left ++ conditionReads right
  | .search _ subject _ => conditionReads subject
  | .not negated => conditionReads negated
  | .and left right => conditionReads left ++ conditionReads right
  | .or left right => conditionReads left ++ conditionReads right
  | .group grouped => conditionReads grouped

/-- The names that a leaf reads one by one. -/
def leafReads : Leaf → List String
  | .echo name _ default => name :: default.toList.flatMap Template.markers
  | .assign _ value => value.markers
  | .inclusion target onError _ _ => target.path.markers ++ onError.toList.flatMap Template.markers
  | .configure errorMessage missingMessage _ _ =>
    (errorMessage.toList ++ missingMessage.toList).flatMap Template.markers
  | .lastModified target => target.path.markers
  | .fileSize target => target.path.markers
  | _ => []

/-- The names that a node reads, not those of the nodes that it holds. -/
def reads : Node → List String
  | .leaf _ content => leafReads content
  | node => (conditions node).flatMap conditionReads

/-- What one directive does is alike in alike contexts: the names that it reads stand for the same,
and so do all names together if it lists them; a content that it stores is the same. -/
structure Fair (likeness : Likeness) (node : Node) : Prop where
  reads : ∀ name ∈ reads node, Common likeness name
  lists : ∀ span, node = .leaf span .listVariables → ∀ ⦃context context'⦄,
    likeness.contexts context context' → context.bindings = context'.bindings
  stores : ∀ span target onError name stub,
    node = .leaf span (.inclusion target onError (some name) stub) → ∀ ⦃bytes bytes'⦄, likeness.outputs bytes bytes' → bytes = bytes'

/-- Filling in a template reads its markers, and not what they stand for. -/
theorem render_congr {template : Template} {lookup lookup' : String → Option String}
    (same : ∀ name ∈ template.markers, lookup name = lookup' name) :
    template.render lookup = template.render lookup' := by
  unfold Template.render
  congr 1
  apply List.map_congr_left
  intro segment member
  cases segment with
  | text content => rfl
  | marker name =>
    have marked : name ∈ template.markers := List.mem_filterMap.2 ⟨_, member, rfl⟩
    simp only [Template.renderSegment, same name marked]

/-- Questions that have the same answer in alike contexts and keep them alike. -/
def AlikeQueries (likeness : Likeness) (query : Query α) : Prop :=
  ∀ ⦃context context'⦄, likeness.contexts context context' →
    (query context).value = (query context').value ∧
    likeness.contexts (query context).context (query context').context ∧
    (query context).lookups = (query context').lookups

theorem alike_ask {query : Query α} (queries : AlikeQueries likeness query) :
    Alike likeness Eq (Run.ask query : Run names α) (Run.ask query : Run names' α) := by
  intro state state' states
  obtain ⟨value, contexts, lookups⟩ := queries states.contexts
  exact ⟨.ok value, ⟨contexts, states.blocks, states.history⟩,
    likeness.output_refl _, .nil, rfl, lookups⟩

theorem alike_queries_pure (value : α) : AlikeQueries likeness (pure value : Query α) :=
  fun _ _ contexts => ⟨rfl, contexts, rfl⟩

theorem alike_queries_bind {query : Query α} {next : α → Query β}
    (first : AlikeQueries likeness query) (later : ∀ value, AlikeQueries likeness (next value)) :
    AlikeQueries likeness (query >>= next) := by
  intro context context' contexts
  obtain ⟨value, after, lookups⟩ := first contexts
  obtain ⟨value', after', lookups'⟩ := later (query context).value after
  rw [value] at value' lookups' after'
  refine ⟨?_, ?_, ?_⟩
  · show (next _ _).value = (next _ _).value
    rw [value, value']
  · show likeness.contexts (next _ _).context (next _ _).context
    rw [value]
    exact after'
  · show _ ++ (next _ _).lookups = _ ++ (next _ _).lookups
    rw [value, lookups, lookups']

theorem alike_queries_get? (common : Common likeness name) :
    AlikeQueries likeness (Query.get? name) :=
  fun _ _ contexts => ⟨(common contexts).1, contexts, (common contexts).2⟩

theorem alike_queries_write_time (zone : Zone) (instant : Instant) :
    AlikeQueries likeness (Query.writeTime zone instant) := by
  intro context context' contexts
  have same : context.timed zone instant = context'.timed zone instant := by
    unfold Context.timed
    rw [likeness.settings_eq contexts]
  exact ⟨congrArg Prod.fst same, contexts, congrArg Prod.snd same⟩

theorem alike_queries_substitute {template : Template}
    (common : ∀ name ∈ template.markers, Common likeness name) :
    AlikeQueries likeness (Query.substitute template) := by
  intro context context' contexts
  refine ⟨render_congr fun name marked => (common name marked contexts).1, contexts, ?_⟩
  exact List.flatMap_congr fun name marked => (common name marked contexts).2

theorem alike_queries_bind_all (pairs : List (String × String)) :
    AlikeQueries likeness (Query.bindAll pairs) := by
  intro context context' contexts
  refine ⟨rfl, ?_, rfl⟩
  induction pairs generalizing context context' with
  | nil => exact contexts
  | cons pair rest ih => exact ih (likeness.set_alike contexts pair.1 pair.2)

theorem alike_queries_find (pattern : Pattern) (subject : String) :
    AlikeQueries likeness (Condition.find pattern subject) := by
  unfold Condition.find
  cases pattern.search subject with
  | none => exact alike_queries_pure false
  | some captures =>
    exact alike_queries_bind (alike_queries_bind_all _) fun _ => alike_queries_pure true

theorem alike_queries_of_value {query : Query String} (value : AlikeQueries likeness query) :
    AlikeQueries likeness (Meaning.ofValue query).truth ∧
      AlikeQueries likeness (Meaning.ofValue query).value :=
  ⟨alike_queries_bind value fun _ => alike_queries_pure _, value⟩

theorem alike_queries_of_truth {query : Query Bool} (truth : AlikeQueries likeness query) :
    AlikeQueries likeness (Meaning.ofTruth query).truth ∧
      AlikeQueries likeness (Meaning.ofTruth query).value := by
  refine ⟨truth, alike_queries_bind truth fun holds => ?_⟩
  cases holds with
  | true => exact alike_queries_pure "1"
  | false => exact alike_queries_pure ""

theorem alike_queries_condition (condition : Condition)
    (common : ∀ name ∈ conditionReads condition, Common likeness name) :
    AlikeQueries likeness condition.meaning.truth ∧ AlikeQueries likeness condition.meaning.value := by
  induction condition with
  | literal text => exact alike_queries_of_value (alike_queries_substitute common)
  | reference name =>
    have asked := alike_queries_get? (common name List.mem_cons_self)
    exact alike_queries_of_value (alike_queries_bind asked fun _ => alike_queries_pure _)
  | compare comparison left right first second =>
    obtain ⟨commonLeft, commonRight⟩ := List.forall_mem_append.1 common
    apply alike_queries_of_truth
    apply alike_queries_bind (first commonLeft).2
    intro _
    exact alike_queries_bind (second commonRight).2 fun _ => alike_queries_pure _
  | search expected subject pattern ih =>
    apply alike_queries_of_truth
    apply alike_queries_bind (ih common).2
    intro text
    exact alike_queries_bind (alike_queries_find pattern text) fun _ => alike_queries_pure _
  | not negated ih =>
    exact alike_queries_of_truth (alike_queries_bind (ih common).1 fun _ => alike_queries_pure _)
  | and left right first second =>
    obtain ⟨commonLeft, commonRight⟩ := List.forall_mem_append.1 common
    apply alike_queries_of_truth
    apply alike_queries_bind (first commonLeft).1
    intro holds
    cases holds with
    | true => exact (second commonRight).1
    | false => exact alike_queries_pure false
  | or left right first second =>
    obtain ⟨commonLeft, commonRight⟩ := List.forall_mem_append.1 common
    apply alike_queries_of_truth
    apply alike_queries_bind (first commonLeft).1
    intro holds
    cases holds with
    | true => exact alike_queries_pure true
    | false => exact (second commonRight).1
  | group grouped ih => exact ih common

/-! ## Directives -/

/-- Resolvers that know the same about targets, and fail in the same cases and in the same way. Contents
are alike, and are empty on both sides or on neither. -/
structure AlikeResolvers (likeness : Likeness) (resolver resolver' : Resolver) : Prop where
  facts : ∀ earlier target, resolver.facts earlier target = resolver'.facts earlier target
  content : ∀ earlier target, AlikeAnswers
    (fun bytes bytes' => likeness.outputs bytes bytes' ∧ bytes.isEmpty = bytes'.isEmpty)
    (resolver.content earlier target) (resolver'.content earlier target)

def AlikeExpansions (likeness : Likeness) (expand : Run.Expansion names)
    (expand' : Run.Expansion names') : Prop :=
  ∀ ⦃site site'⦄, likeness.sites site site' → ∀ name,
    Alike likeness (Option.Rel likeness.outputs) (expand site name) (expand' site' name)

theorem alike_emit_error_message :
    Alike likeness Eq (Run.emitErrorMessage : Run names Unit)
      (Run.emitErrorMessage : Run names' Unit) :=
  alike_bind_same
    (alike_look fun contexts => congrArg Settings.errorMessage (likeness.settings_eq contexts))
    fun text => alike_emit_text text

theorem alike_settings : Alike likeness Eq (Run.look (·.settings) : Run names Settings)
    (Run.look (·.settings) : Run names' Settings) := alike_look likeness.settings_eq

theorem alike_substitute {template : Template}
    (common : ∀ name ∈ template.markers, Common likeness name) :
    Alike likeness Eq (Run.substitute template : Run names String)
      (Run.substitute template : Run names' String) :=
  alike_ask (alike_queries_substitute common)

theorem alike_substitute_target {target : Target Template}
    (common : ∀ name ∈ target.path.markers, Common likeness name) :
    Alike likeness Eq (Run.substituteTarget target : Run names (Target String))
      (Run.substituteTarget target : Run names' (Target String)) := by
  cases target with
  | virtual path => exact alike_bind_same (alike_substitute common) fun _ => alike_pure rfl
  | file path => exact alike_bind_same (alike_substitute common) fun _ => alike_pure rfl

theorem alike_substitute? {template : Option Template}
    (common : ∀ name ∈ template.toList.flatMap Template.markers, Common likeness name) :
    Alike likeness Eq (Run.substitute? template : Run names (Option String))
      (Run.substitute? template : Run names' (Option String)) := by
  cases template with
  | none => exact alike_pure rfl
  | some template =>
    rw [Option.toList_some, List.flatMap_singleton] at common
    exact alike_bind_same (alike_substitute common) fun _ => alike_pure rfl

theorem alike_describe {resolver resolver' : Resolver}
    (resolvers : AlikeResolvers likeness resolver resolver') (sites : likeness.sites site site')
    {target : Target Template} (common : ∀ name ∈ target.path.markers, Common likeness name)
    {write : Metadata → Run names String} {write' : Metadata → Run names' String}
    (writes : ∀ known, Alike likeness Eq (write known) (write' known)) :
    Alike likeness Eq (Run.describe resolver site target write)
      (Run.describe resolver' site' target write') := by
  apply alike_bind_same (alike_substitute_target common)
  intro filled
  have answers : ∀ earlier, AlikeAnswers Eq (resolver.facts earlier filled)
      (resolver'.facts earlier filled) := by
    intro earlier
    rw [resolvers.facts]
    cases resolver'.facts earlier filled with
    | ok known => exact .ok rfl
    | error error => exact .error error
  apply alike_bind (alike_consult _ answers sites)
  intro known known' both
  cases both with
  | none => exact alike_emit_error_message
  | some same =>
    cases same
    exact alike_bind_same (writes _) fun _ => alike_emit_text _

theorem alike_write_modified (known : Metadata) :
    Alike likeness Eq (Run.writeModified known : Run names String)
      (Run.writeModified known : Run names' String) :=
  alike_ask (alike_queries_write_time .universal known.modified)

theorem alike_write_size (known : Metadata) :
    Alike likeness Eq (Run.writeSize known : Run names String)
      (Run.writeSize known : Run names' String) :=
  alike_bind_same alike_settings fun _ => alike_pure rfl

section

variable {resolver resolver' : Resolver} (resolvers : AlikeResolvers likeness resolver resolver')
  (sites : likeness.sites site site')

include resolvers sites

/-- Contents that are fetched are alike, and empty on both sides or on neither. -/
theorem alike_fetch {target : Target Template} {onError : Option Template}
    (common : ∀ name ∈ target.path.markers ++ onError.toList.flatMap Template.markers,
      Common likeness name) :
    Alike likeness
      (Option.Rel fun bytes bytes' => likeness.outputs bytes bytes' ∧ bytes.isEmpty = bytes'.isEmpty)
      (Run.fetch resolver site target onError : Run names (Option Bytes))
      (Run.fetch resolver' site' target onError : Run names' (Option Bytes)) := by
  obtain ⟨ofTarget, ofFallback⟩ := List.forall_mem_append.1 common
  apply alike_bind_same (alike_substitute_target ofTarget)
  intro filled
  apply alike_bind (alike_consult _ (resolvers.content · filled) sites)
  intro fetched fetched' both
  cases both with
  | some fit => exact alike_pure (.some fit)
  | none =>
    cases onError with
    | none => exact alike_pure .none
    | some path =>
      rw [Option.toList_some, List.flatMap_singleton] at ofFallback
      apply alike_bind_same (alike_substitute ofFallback)
      intro text
      exact alike_consult _ (resolvers.content · (.virtual text)) sites

variable {expand : Run.Expansion names} {expand' : Run.Expansion names'}
  (expands : AlikeExpansions likeness expand expand')

include expands

omit resolvers

theorem alike_echo {default : Option Template} (encoding : Option Encoding)
    (common : ∀ read ∈ name :: default.toList.flatMap Template.markers, Common likeness read) :
    Alike likeness Eq (Run.echo expand site name encoding default)
      (Run.echo expand' site' name encoding default) := by
  obtain ⟨own, others⟩ := List.forall_mem_cons.1 common
  apply alike_bind_same (alike_ask (alike_queries_get? own))
  intro found
  cases found with
  | some value =>
    have encoded : Alike likeness Eq (Run.look (·.settings.encoding) : Run names Encoding)
        (Run.look (·.settings.encoding) : Run names' Encoding) :=
      alike_look fun contexts => congrArg Settings.encoding (likeness.settings_eq contexts)
    exact alike_bind_same encoded fun _ => alike_emit_text _
  | none =>
    apply alike_bind (alike_block? name)
    intro block block' blocks
    have defined : block.isSome = block'.isSome := by cases blocks <;> rfl
    rw [defined]
    split
    · apply alike_bind (expands sites name)
      intro written written' both
      cases both with
      | some outputs => exact alike_emit outputs
      | none => exact alike_emit_error_message
    · cases default with
      | some template =>
        rw [Option.toList_some, List.flatMap_singleton] at others
        exact alike_bind_same (alike_substitute others) fun _ => alike_emit_text _
      | none =>
        have missing : Alike likeness Eq (Run.look (·.settings.missingMessage) : Run names String)
            (Run.look (·.settings.missingMessage) : Run names' String) :=
          alike_look fun contexts => congrArg Settings.missingMessage (likeness.settings_eq contexts)
        apply alike_bind_same missing
        intro text
        exact alike_bind_same (alike_emit_text text) fun _ => alike_record sites _

/-- Whether a stub takes the place of a content depends on nothing but whether that is empty. -/
theorem alike_substitute_stub (stub : Option String) {content content' : Option Bytes}
    (both : Option.Rel (fun bytes bytes' => likeness.outputs bytes bytes' ∧
      bytes.isEmpty = bytes'.isEmpty) content content') :
    Alike likeness (Option.Rel likeness.outputs) (Run.substituteStub expand site content stub)
      (Run.substituteStub expand' site' content' stub) := by
  have outputs : Option.Rel likeness.outputs content content' := by
    cases both with
    | none => exact .none
    | some fit => exact .some fit.1
  have full : (content.any fun bytes => !bytes.isEmpty) =
      content'.any fun bytes => !bytes.isEmpty := by
    cases both with
    | none => rfl
    | some fit => simp only [Option.any_some, fit.2]
  cases stub with
  | none => exact alike_pure outputs
  | some name =>
    simp only [Run.substituteStub, full]
    split
    · exact alike_pure outputs
    · apply alike_bind (alike_block? name)
      intro block block' blocks
      have defined : block.isSome = block'.isSome := by cases blocks <;> rfl
      rw [defined]
      split
      · exact expands sites name
      · exact alike_bind_same (alike_record sites _) fun _ => alike_pure outputs

include resolvers

theorem alike_leaf (content : Leaf) (fair : Fair likeness (.leaf span content)) :
    Alike likeness Eq (Run.renderLeaf resolver expand site content)
      (Run.renderLeaf resolver' expand' site' content) := by
  have common : ∀ name ∈ leafReads content, Common likeness name := fair.reads
  cases content with
  | literal bytes => exact alike_emit (likeness.output_refl bytes)
  | echo name encoding default => exact alike_echo sites expands encoding common
  | assign name value =>
    apply alike_bind_same (alike_substitute common)
    intro text
    exact alike_change fun contexts => likeness.set_alike contexts name text
  | inclusion target onError store stub =>
    apply alike_bind (alike_fetch resolvers sites common)
    intro fetched fetched' both
    apply alike_bind (alike_substitute_stub sites expands stub both)
    intro included included' both
    cases both with
    | none => exact alike_emit_error_message
    | some outputs =>
      cases store with
      | none => exact alike_emit outputs
      | some name =>
        rw [fair.stores _ _ _ _ _ rfl outputs]
        exact alike_change fun contexts => likeness.set_alike contexts name _
  | configure errorMessage missingMessage sizeFormat timeFormat =>
    rw [leafReads, List.flatMap_append] at common
    obtain ⟨ofErrors, ofMissing⟩ := List.forall_mem_append.1 common
    apply alike_bind_same (alike_substitute? ofErrors)
    intro errors
    apply alike_bind_same (alike_substitute? ofMissing)
    intro missing
    exact alike_change fun contexts => likeness.configure_alike contexts errors missing _ _
  | lastModified target => exact alike_describe resolvers sites common alike_write_modified
  | fileSize target => exact alike_describe resolvers sites common alike_write_size
  | listVariables =>
    have listed : Alike likeness Eq (Run.look (Run.listing ·.bindings) : Run names String)
        (Run.look (Run.listing ·.bindings) : Run names' String) :=
      alike_look fun contexts => congrArg Run.listing (fair.lists span rfl contexts)
    exact alike_bind_same listed fun text => alike_emit_text text
  | comment => exact alike_pure rfl
  | unknown name => exact alike_pure rfl

end

/-! ## Blocks -/

/-- Bodies that are alike are rendered alike, however the blocks that they call for are. -/
def AlikeBodies (likeness : Likeness) (resolver resolver' : Resolver) (names names' : List String) :
    Prop :=
  ∀ ⦃body body'⦄, likeness.bodies body body' →
    ∀ ⦃expand : Run.Expansion names⦄ ⦃expand' : Run.Expansion names'⦄,
      AlikeExpansions likeness expand expand' → ∀ within within',
        Alike likeness Eq (Run.renderAll resolver expand body within)
          (Run.renderAll resolver' expand' body' within')

theorem alike_expand {resolver resolver' : Resolver}
    (bodies : AlikeBodies likeness resolver resolver' names names') (chain : List String) :
    AlikeExpansions likeness (Run.expand resolver chain : Run.Expansion names)
      (Run.expand resolver' chain : Run.Expansion names') := by
  intro site site' sites name
  rw [Run.expand, Run.expand]
  apply alike_bind (alike_block? name)
  intro found found' both
  cases both with
  | none => exact alike_pure .none
  | @some block block' blocks =>
    simp only [← blocks.name]
    by_cases held : block.name ∈ chain
    · simp only [held, dif_pos]
      exact alike_bind_same (alike_record sites _) fun _ => alike_pure .none
    · simp only [held, dif_neg, not_false_eq_true]
      -- the two sides have the same chain, so the names left on one side carry the recursion
      have fewer : free names (block.name :: chain) < free names chain :=
        free_cons_lt block.name_mem held
      apply alike_bind (alike_capture
        (bodies blocks.body (alike_expand bodies (block.name :: chain)) _ _))
      intro bytes bytes' outputs
      exact alike_pure (.some outputs)
termination_by free names chain
decreasing_by exact fewer

/-! ## One tree twice -/

/-- A likeness for two evaluations of one tree, whose nodes keep to it. Bodies of blocks are the same on
both sides, and are from the tree. -/
structure FitsTree (likeness : Likeness) (tree : List Node) : Prop where
  here : ∀ site, likeness.sites site site
  own : ∀ body, (∀ node ∈ body, Has tree node) → likeness.bodies body body
  known : likeness.bodies body body' → body = body' ∧ ∀ node ∈ body, Has tree node
  fair : ∀ node, Has tree node → Fair likeness node

section

variable {tree : List Node} {resolver resolver' : Resolver} {expand : Run.Expansion names}
  {expand' : Run.Expansion names'} 

mutual

theorem alike_all (resolvers : AlikeResolvers likeness resolver resolver')
    (expands : AlikeExpansions likeness expand expand') (fits : FitsTree likeness tree) :
    (nodes : List Node) → (∀ node ∈ nodes, Has tree node) → ∀ within within',
    Alike likeness Eq (Run.renderAll resolver expand nodes within)
      (Run.renderAll resolver' expand' nodes within')
  | [], _, _, _ => by
    simp only [Run.renderAll]
    exact alike_pure rfl
  | node :: rest, held, _, _ => by
    obtain ⟨first, later⟩ := List.forall_mem_cons.1 held
    simp only [Run.renderAll]
    exact alike_bind_same (alike_node resolvers expands fits node first _ _) fun _ =>
      alike_all resolvers expands fits rest later _ _

theorem alike_node (resolvers : AlikeResolvers likeness resolver resolver')
    (expands : AlikeExpansions likeness expand expand') (fits : FitsTree likeness tree) :
    (node : Node) → Has tree node → ∀ within within',
    Alike likeness Eq (Run.renderNode resolver expand node within)
      (Run.renderNode resolver' expand' node within')
  | .leaf span content, held, _, _ => by
    simp only [Run.renderNode]
    exact alike_leaf resolvers (fits.here _) expands content (fits.fair _ held)
  | .conditional span condition body rest, held, _, _ => by
    simp only [Run.renderNode]
    obtain ⟨ofFirst, ofOthers⟩ := List.forall_mem_append.1 (fits.fair _ held).reads
    apply alike_bind_same (alike_ask (alike_queries_condition condition ofFirst).1)
    intro holds
    cases holds with
    | true => exact alike_all resolvers expands fits body (has_of_body held) _ _
    | false => exact alike_branches resolvers expands fits rest (has_of_branches held) ofOthers _ _
  | .block span name body, held, _, _ => by
    simp only [Run.renderNode]
    exact alike_define ⟨rfl, fits.own body (has_of_block held)⟩

theorem alike_branches (resolvers : AlikeResolvers likeness resolver resolver')
    (expands : AlikeExpansions likeness expand expand') (fits : FitsTree likeness tree) :
    (rest : Branches) → HasBranches tree rest →
    (∀ name ∈ (rest.elifs.map (·.1)).flatMap conditionReads, Common likeness name) →
    ∀ within within', Alike likeness Eq (Run.renderBranches resolver expand rest within)
      (Run.renderBranches resolver' expand' rest within')
  | .done, _, _, _, _ => by
    simp only [Run.renderBranches]
    exact alike_pure rfl
  | .otherwise body, held, _, _, _ => by
    simp only [Run.renderBranches]
    exact alike_all resolvers expands fits body (has_of_otherwise held) _ _
  | .elif condition body rest, held, common, _, _ => by
    simp only [Run.renderBranches]
    obtain ⟨ofFirst, ofOthers⟩ := List.forall_mem_append.1 common
    obtain ⟨heldBody, heldRest⟩ := has_of_elif held
    apply alike_bind_same (alike_ask (alike_queries_condition condition ofFirst).1)
    intro holds
    cases holds with
    | true => exact alike_all resolvers expands fits body heldBody _ _
    | false => exact alike_branches resolvers expands fits rest heldRest ofOthers _ _

end

/-- In alike contexts, a tree is rendered alike. -/
theorem alike_tree (resolvers : AlikeResolvers likeness resolver resolver')
    (fits : FitsTree likeness tree) (within : Node.listBlockNames tree ⊆ names)
    (within' : Node.listBlockNames tree ⊆ names') :
    Alike likeness Eq (Run.renderAll resolver (Run.expand resolver []) tree within)
      (Run.renderAll resolver' (Run.expand resolver' []) tree within') := by
  have bodies : AlikeBodies likeness resolver resolver' names names' := by
    intro body body' alike expand expand' expands
    obtain ⟨rfl, held⟩ := fits.known alike
    exact alike_all resolvers expands fits body held
  exact alike_all resolvers (alike_expand bodies []) fits tree (fun node member => has_of_mem member)
    within within'

end

/-- What comes of a tree in alike contexts, up to the end or to a fatal answer, is alike. -/
theorem alike_outcomes {resolver resolver' : Resolver}
    (resolvers : AlikeResolvers likeness resolver resolver') (fits : FitsTree likeness nodes)
    (contexts : likeness.contexts context.resetSettings context'.resetSettings) :
    AlikeOutcomes likeness Eq (outcomeOf resolver context nodes)
      (outcomeOf resolver' context' nodes) := by
  unfold outcomeOf
  rw [run_of_tree, run_of_tree]
  exact alike_tree resolvers fits _ _ _ _ ⟨contexts, .nil, rfl⟩

/-- The context that a tree leaves, also if a fatal answer ends its evaluation. -/
theorem context_of_render (resolver : Resolver) (context : Context) (nodes : List Node) :
    ((Evaluator.ofContext context.resetSettings).render resolver nodes).2.context =
      (outcomeOf resolver context nodes).state.context := by
  unfold outcomeOf
  rw [run_of_tree]
  rfl

section

variable (sites : ∀ {site site'}, likeness.sites site site' → site = site')

include sites

/-- Where alike sites are the same ones, so are faults and aborts. -/
theorem fault_eq (faults : AlikeFaults likeness fault fault') : fault = fault' := by
  obtain ⟨site, cause⟩ := fault
  obtain ⟨site', cause'⟩ := fault'
  cases sites faults.site
  cases faults.cause
  rfl

theorem faults_eq (logs : AlikeLogs likeness log log') : log.faults = log'.faults := by
  rw [← List.forall₂_eq_eq_eq]
  exact logs.faults.imp fun _ _ => fault_eq sites

theorem log_eq (outputs : ∀ {bytes bytes'}, likeness.outputs bytes bytes' → bytes = bytes')
    (logs : AlikeLogs likeness log log') : log = log' := by
  have faults := faults_eq sites logs
  obtain ⟨output, calls, lookups⟩ := And.intro (outputs logs.output) (And.intro logs.calls logs.lookups)
  cases log
  cases log'
  cases output
  cases faults
  cases calls
  cases lookups
  rfl

theorem result_eq {result result' : Except Abort α}
    (results : AlikeResults likeness Eq result result') :
    result = result' := by
  cases results with
  | ok fit => rw [fit]
  | @error abort abort' site error =>
    obtain ⟨place, answer⟩ := abort
    cases sites site
    cases error
    rfl

end

end ServerIncludes.Likenesses
