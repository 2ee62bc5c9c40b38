import ServerIncludes.Proofs.Evaluation.Plan
import ServerIncludes.Proofs.Evaluation.Session
import ServerIncludes.Proofs.Evaluation.Termination

/-! Blocks that are being rendered, on a stack. An evaluator that keeps their names on a stack of its
own, on which a block is put before it is rendered and from which it is taken however its rendering
ends, does what an evaluator does that hands the chain of blocks down. Its stack is empty between calls,
and at no time does it hold a name twice or a name that is not defined; and a block is refused exactly
if it is called for while it is on the stack. -/
namespace ServerIncludes.Expanding

open Plans (bind_of_error bind_of_ok consult_leaves name_of_block names_of_block names_of_body
  names_of_branches names_of_elif names_of_first names_of_others names_of_rest siteOf)
open Sessions
open Termination (Proper block_names_known mem_of_full proper_cons proper_nil)

/-- A moment of an evaluation: one at which a node is about to be rendered, or one at which the stack
has just changed. -/
structure Moment where
  names : List String
  state : EvalState names
  /-- The names of the blocks being rendered, innermost first. -/
  expanding : List String
  node : Option Node

/-- An outcome, the stack that is left with it, and the moments passed on the way. -/
structure Reached (names : List String) (α : Type) extends Outcome names α where
  expanding : List String
  moments : List Moment

/-- A step that has a stack at hand. -/
def Stacked (names : List String) (α : Type) : Type :=
  List String → EvalState names → Reached names α

namespace Stacked

variable {names : List String} {α β : Type}

def andThen (first : Stacked names α) (next : α → Stacked names β) : Stacked names β :=
  fun expanding state =>
    let reached := first expanding state
    match reached.result with
    | .error abort => ⟨⟨.error abort, reached.state, reached.log⟩, reached.expanding, reached.moments⟩
    | .ok value =>
      let later := next value reached.expanding reached.state
      ⟨⟨later.result, later.state, reached.log ++ later.log⟩, later.expanding,
        reached.moments ++ later.moments⟩

instance : Monad (Stacked names) where
  pure value := fun expanding state => ⟨⟨.ok value, state, .empty⟩, expanding, []⟩
  bind := andThen

/-- A step that leaves the stack alone. -/
def lift (step : Run names α) : Stacked names α := fun expanding state =>
  ⟨step state, expanding, []⟩

/-- The stack as it is. -/
def stack : Stacked names (List String) := fun expanding state =>
  ⟨⟨.ok expanding, state, .empty⟩, expanding, []⟩

/-- Changes the stack. -/
def change (update : List String → List String) : Stacked names Unit := fun expanding state =>
  ⟨⟨.ok (), state, .empty⟩, update expanding, [⟨names, state, update expanding, none⟩]⟩

def push (name : String) : Stacked names Unit := change (name :: ·)

def pop : Stacked names Unit := change List.tail

/-- Comes to a node. -/
def visit (node : Node) : Stacked names Unit := fun expanding state =>
  ⟨⟨.ok (), state, .empty⟩, expanding, [⟨names, state, expanding, some node⟩]⟩

/-- Takes a step with an output of its own, which is lost if the step ends the evaluation. -/
def capture (step : Stacked names Unit) : Stacked names Bytes := fun expanding state =>
  let reached := step expanding state
  ⟨⟨reached.result.map fun _ => reached.log.output, reached.state, reached.log.silent⟩,
    reached.expanding, reached.moments⟩

/-- Takes a step and goes on however it ended. -/
def attempt (step : Stacked names α) : Stacked names (Except Abort α) := fun expanding state =>
  let reached := step expanding state
  ⟨⟨.ok reached.result, reached.state, reached.log⟩, reached.expanding, reached.moments⟩

/-- Ends the evaluation unless there is a value. -/
def orAbort (result : Except Abort α) : Stacked names α := fun expanding state =>
  ⟨⟨result, state, .empty⟩, expanding, []⟩

/-- Takes a step with a name on top of the stack, which is taken off again however the step ends. -/
def during (name : String) (step : Stacked names α) : Stacked names α := do
  push name
  let ended ← attempt step
  pop
  orAbort ended

end Stacked

/-! ## Rendering on a stack -/

section

open Stacked

variable {names : List String} (resolver : Resolver)

abbrev Expansion (names : List String) : Type := Site → String → Stacked names (Option Bytes)

/-- Rendering of the block of a name, which is on the stack meanwhile. A block that is on the stack
already is refused. -/
def expandOn (renderBody : DefinedBlock names → Stacked names Unit) : Expansion names :=
  fun site name => do
    match ← lift (Run.block? name) with
    | none => return none
    | some block =>
      if block.name ∈ (← stack) then
        lift (Run.record site (.recursiveBlock name))
        return none
      else
        let bytes ← during block.name (capture (renderBody block))
        return some bytes

def echoOn (expand : Expansion names) (site : Site) (name : String) (encoding : Option Encoding)
    (default : Option Template) : Stacked names Unit := do
  match ← lift (Run.ask (Query.get? name)) with
  | some value =>
    let settings ← lift (Run.look (·.settings))
    lift (Run.emitText ((encoding.getD settings.encoding).encode value))
  | none =>
    if (← lift (Run.block? name)).isSome then
      match ← expand site name with
      | some bytes => lift (Run.emit bytes)
      | none => lift Run.emitErrorMessage
    else
      lift do
        match default with
        | some template => Run.emitText (← Run.substitute template)
        | none =>
          Run.emitText (← Run.look (·.settings.missingMessage))
          Run.record site (.undefinedVariable name)

def substituteStubOn (expand : Expansion names) (site : Site) (content : Option Bytes)
    (stub : Option String) : Stacked names (Option Bytes) := do
  match stub with
  | none => return content
  | some name =>
    if content.any fun bytes => !bytes.isEmpty then return content
    else if (← lift (Run.block? name)).isSome then expand site name
    else
      lift (Run.record site (.unknownBlock name))
      return content

def includeOn (expand : Expansion names) (site : Site) (target : Target Template)
    (onError : Option Template) (store stub : Option String) : Stacked names Unit := do
  let fetched ← lift (Run.fetch resolver site target onError)
  match ← substituteStubOn expand site fetched stub with
  | none => lift Run.emitErrorMessage
  | some bytes =>
    match store with
    | some name => lift (Run.change (·.set name (Bytes.textLossy bytes)))
    | none => lift (Run.emit bytes)

/-- Text and directives that hold no others. Only echoes and inclusions call for blocks. -/
def leafOn (expand : Expansion names) (site : Site) : Leaf → Stacked names Unit
  | .echo name encoding default => echoOn expand site name encoding default
  | .inclusion target onError store stub => includeOn resolver expand site target onError store stub
  | content => lift (Run.renderLeaf resolver (fun _ _ => pure none) site content)

mutual

def allOn (expand : Expansion names) :
    (nodes : List Node) → Node.listBlockNames nodes ⊆ names → Stacked names Unit
  | [], _ => pure ()
  | node :: rest, within => do
    nodeOn expand node (names_of_first within)
    allOn expand rest (names_of_rest within)

def nodeOn (expand : Expansion names) : (node : Node) → node.blockNames ⊆ names → Stacked names Unit
  | .leaf span content, _ => do
    visit (.leaf span content)
    leafOn resolver expand ⟨span.start, content.directive⟩ content
  | .conditional span condition body rest, within => do
    visit (.conditional span condition body rest)
    if ← lift (Run.ask condition.truth) then allOn expand body (names_of_body within)
    else branchesOn expand rest (names_of_branches within)
  | .block span name body, within => do
    visit (.block span name body)
    lift (Run.define ⟨name, body, name_of_block within, names_of_block within⟩)

def branchesOn (expand : Expansion names) :
    (branches : Branches) → branches.blockNames ⊆ names → Stacked names Unit
  | .done, _ => pure ()
  | .otherwise body, within => allOn expand body within
  | .elif condition body rest, within => do
    if ← lift (Run.ask condition.truth) then allOn expand body (names_of_elif within)
    else branchesOn expand rest (names_of_others within)

end

/-- Renders the body of a block, with at most `limit` blocks inside it in one another. One that would
lie deeper is left to `beyond`. -/
def bodyOn (beyond : DefinedBlock names → Stacked names Unit) :
    Nat → DefinedBlock names → Stacked names Unit
  | 0 => beyond
  | limit + 1 => fun block =>
    allOn resolver (expandOn (bodyOn beyond limit)) block.body block.body_names

end

/-! ## When a block is refused -/

section

variable {names : List String}

def Defined (state : EvalState names) (name : String) : Prop := (state.block? name).isSome

instance (state : EvalState names) (name : String) : Decidable (Defined state name) :=
  inferInstanceAs (Decidable (_ = true))

/-- The name of the block that a leaf falls back on: that of a variable it cannot echo, or that of the
stub of an inclusion that has got no content, or an empty one. -/
def fallback? (resolver : Resolver) (state : EvalState names) (site : Site) : Leaf → Option String
  | .echo name _ _ => if (state.context.get? name).isNone then some name else none
  | .inclusion target onError _ stub =>
    match (Run.fetch resolver site target onError state).result with
    | .ok content => if content.any fun bytes => !bytes.isEmpty then none else stub
    | .error _ => none
  | _ => none

/-- The fault of calling for a block that is defined and on the stack. -/
def refusal (expanding : List String) (state : EvalState names) (site : Site) (name : String) :
    List Fault :=
  if Defined state name ∧ name ∈ expanding then [⟨site, .recursiveBlock name⟩] else []

/-- The faults of blocks that a leaf is refused. -/
def refusals (resolver : Resolver) (expanding : List String) (state : EvalState names) (site : Site)
    (content : Leaf) : List Fault :=
  match fallback? resolver state site content with
  | some name => refusal expanding state site name
  | none => []

def Moment.refused (resolver : Resolver) (moment : Moment) : List Fault :=
  match moment.node with
  | some (.leaf span content) =>
    refusals resolver moment.expanding moment.state ⟨span.start, content.directive⟩ content
  | _ => []

def isRecursive (fault : Fault) : Bool :=
  match fault.cause with
  | .recursiveBlock _ => true
  | _ => false

/-- A stack that holds names of blocks that are defined, each of them once. -/
structure Fit (expanding : List String) (state : EvalState names) : Prop where
  distinct : expanding.Nodup
  defined : ∀ name ∈ expanding, Defined state name

/-- What is reached with a stack is the given outcome, with the same stack again. On the way the
stack was fit; and of the faults of recursion, the first ones are as given, and the others are those of
the leaves that were come to. -/
structure Follows (resolver : Resolver) (expanding : List String) (state : EvalState names)
    (faults : List Fault) (reached : Reached names α) (outcome : Outcome names α) : Prop where
  same : reached.toOutcome = outcome
  restored : reached.expanding = expanding
  kept : ∀ name, Defined state name → Defined reached.state name
  fit : ∀ moment ∈ reached.moments, Fit moment.expanding moment.state
  refused : reached.log.faults.filter isRecursive =
    faults ++ reached.moments.flatMap (·.refused resolver)

end

/-! ## The stack and the chain -/

section

open Stacked

variable {names : List String} {resolver : Resolver} {expanding : List String}
  {state : EvalState names}

theorem fit_kept (fit : Fit expanding state)
    (kept : ∀ name, Defined state name → Defined (later : EvalState names) name) :
    Fit expanding later :=
  ⟨fit.distinct, fun name member => kept name (fit.defined name member)⟩

theorem stacked_bind_of_ok {step : Stacked names α}
    (ended : (step expanding state).result = .ok value) (next : α → Stacked names β) :
    (step >>= next) expanding state =
      let reached := step expanding state
      let later := next value reached.expanding reached.state
      ⟨⟨later.result, later.state, reached.log ++ later.log⟩, later.expanding,
        reached.moments ++ later.moments⟩ := by
  show Stacked.andThen step next expanding state = _
  simp only [Stacked.andThen, ended]

theorem stacked_bind_of_error {step : Stacked names α}
    (ended : (step expanding state).result = .error abort) (next : α → Stacked names β) :
    (step >>= next) expanding state =
      let reached := step expanding state
      ⟨⟨.error abort, reached.state, reached.log⟩, reached.expanding, reached.moments⟩ := by
  show Stacked.andThen step next expanding state = _
  simp only [Stacked.andThen, ended]

theorem follows_bind {step : Stacked names α} {next : α → Stacked names β} {step' : Run names α}
    {next' : α → Run names β}
    (first : Follows resolver expanding state faults (step expanding state) (step' state))
    (later : ∀ value, (step' state).result = .ok value → Follows resolver expanding
      (step' state).state [] (next value expanding (step' state).state)
      (next' value (step' state).state)) :
    Follows resolver expanding state faults ((step >>= next) expanding state)
      ((step' >>= next') state) := by
  obtain ⟨same, restored, kept, fit, refused⟩ := first
  cases ended : (step' state).result with
  | error abort =>
    have ended' : (step expanding state).result = .error abort := by rw [same, ended]
    rw [stacked_bind_of_error ended', bind_of_error ended]
    exact ⟨by simp only [same], restored, kept, fit, refused⟩
  | ok value =>
    have ended' : (step expanding state).result = .ok value := by rw [same, ended]
    have after := later value ended
    rw [stacked_bind_of_ok ended', bind_of_ok ended]
    simp only [same, restored]
    constructor
    · simp only [after.same]
    · exact after.restored
    · intro name defined
      exact after.kept name (same ▸ kept name defined)
    · exact List.forall_mem_append.2 ⟨fit, after.fit⟩
    · simp only [Log.append_def, Log.append, List.filter_append, List.flatMap_append,
        ← List.append_assoc, ← refused, same]
      rw [after.refused]
      rfl

/-! ## Steps that call for no block -/

/-- A step that leaves the blocks as they are and records no recursion. -/
structure Plain (step : Run names α) : Prop where
  blocks : ∀ state, (step state).state.blocks = state.blocks
  faults : ∀ state, (step state).log.faults.filter isRecursive = []

theorem defined_congr {later : EvalState names} (same : later.blocks = state.blocks) (name : String) :
    Defined later name ↔ Defined state name := by
  unfold Defined EvalState.block?
  rw [same]

theorem plain_pure (value : α) : Plain (pure value : Run names α) := ⟨fun _ => rfl, fun _ => rfl⟩

theorem plain_ask (query : Query α) : Plain (Run.ask query : Run names α) :=
  ⟨fun _ => rfl, fun _ => rfl⟩

theorem plain_look (read : Context → α) : Plain (Run.look read : Run names α) :=
  ⟨fun _ => rfl, fun _ => rfl⟩

theorem plain_block? (name : String) : Plain (Run.block? name : Run names _) :=
  ⟨fun _ => rfl, fun _ => rfl⟩

theorem plain_emit (bytes : Bytes) : Plain (Run.emit bytes : Run names Unit) :=
  ⟨fun _ => rfl, fun _ => rfl⟩

theorem plain_change (update : Context → Context) : Plain (Run.change update : Run names Unit) :=
  ⟨fun _ => rfl, fun _ => rfl⟩

theorem plain_consult (call : ResolverCall) (answer : List ResolverCall → Except ResolveError α)
    (site : Site) : Plain (Run.consult call answer site : Run names (Option α)) := by
  constructor
  · intro state
    rw [(consult_leaves call answer site state).1]
  · intro state
    unfold Run.consult
    cases answer state.history with
    | ok value => rfl
    | error error => cases error <;> rfl

theorem plain_bind {step : Run names α} {next : α → Run names β} (first : Plain step)
    (later : ∀ value, Plain (next value)) : Plain (step >>= next) := by
  constructor
  · intro state
    cases ended : (step state).result with
    | error abort =>
      rw [bind_of_error ended]
      exact first.blocks state
    | ok value =>
      rw [bind_of_ok ended]
      exact ((later value).blocks _).trans (first.blocks state)
  · intro state
    cases ended : (step state).result with
    | error abort =>
      rw [bind_of_error ended]
      exact first.faults state
    | ok value =>
      rw [bind_of_ok ended]
      refine (List.filter_append ..).trans ?_
      rw [first.faults state, (later value).faults _]
      rfl

theorem plain_emit_error_message : Plain (Run.emitErrorMessage : Run names Unit) :=
  plain_bind (plain_look _) fun _ => plain_emit _

theorem plain_substitute_target (target : Target Template) :
    Plain (Run.substituteTarget target : Run names (Target String)) := by
  cases target with
  | virtual path => exact plain_bind (plain_ask _) fun _ => plain_pure _
  | file path => exact plain_bind (plain_ask _) fun _ => plain_pure _

theorem plain_substitute? (template : Option Template) :
    Plain (Run.substitute? template : Run names (Option String)) := by
  cases template with
  | none => exact plain_pure _
  | some template => exact plain_bind (plain_ask _) fun _ => plain_pure _

theorem plain_fetch (site : Site) (target : Target Template) (onError : Option Template) :
    Plain (Run.fetch resolver site target onError : Run names (Option Bytes)) := by
  apply plain_bind (plain_substitute_target target)
  intro filled
  apply plain_bind (plain_consult _ _ site)
  intro fetched
  cases fetched with
  | some bytes => exact plain_pure _
  | none =>
    cases onError with
    | none => exact plain_pure _
    | some path => exact plain_bind (plain_ask _) fun _ => plain_consult _ _ site

theorem plain_describe (site : Site) (target : Target Template)
    {write : Metadata → Run names String} (writes : ∀ known, Plain (write known)) :
    Plain (Run.describe resolver site target write) := by
  apply plain_bind (plain_substitute_target target)
  intro filled
  apply plain_bind (plain_consult _ _ site)
  intro known
  cases known with
  | none => exact plain_emit_error_message
  | some metadata => exact plain_bind (writes metadata) fun _ => plain_emit _

theorem follows_lift {step : Run names α} (plain : Plain step) :
    Follows resolver expanding state [] (lift step expanding state) (step state) :=
  ⟨rfl, rfl, fun name => (defined_congr (plain.blocks state) name).2, List.forall_mem_nil _,
    plain.faults state⟩

theorem follows_pure (value : α) : Follows resolver expanding state []
    ((pure value : Stacked names α) expanding state) ((pure value : Run names α) state) :=
  ⟨rfl, rfl, fun _ defined => defined, List.forall_mem_nil _, rfl⟩

/-- What follows on a step that calls for no block can be told before it. -/
theorem follows_lift_bind {step : Run names α} {next : α → Stacked names β}
    {next' : α → Run names β} (plain : Plain step)
    (failed : ∀ abort, (step state).result = .error abort → faults = [])
    (later : ∀ value, (step state).result = .ok value → Follows resolver expanding
      (step state).state faults (next value expanding (step state).state)
      (next' value (step state).state)) :
    Follows resolver expanding state faults ((lift step >>= next) expanding state)
      ((step >>= next') state) := by
  have still := fun name => defined_congr (plain.blocks state) name
  cases ended : (step state).result with
  | error abort =>
    rw [stacked_bind_of_error (show (lift step expanding state).result = _ from ended),
      bind_of_error ended, failed abort ended]
    exact ⟨rfl, rfl, fun name => (still name).2, List.forall_mem_nil _, plain.faults state⟩
  | ok value =>
    have after := later value ended
    rw [stacked_bind_of_ok (show (lift step expanding state).result = _ from ended),
      bind_of_ok ended]
    constructor
    · simp only [lift, after.same]
    · exact after.restored
    · intro name defined
      exact after.kept name ((still name).2 defined)
    · exact after.fit
    · refine (List.filter_append ..).trans ?_
      rw [show ((lift step expanding state).log.faults.filter isRecursive) = [] from
        plain.faults state]
      exact after.refused

/-! ## Directives that call for blocks -/

/-- Blocks that are called for are rendered on the stack as they are rendered in the chain. -/
def Answers (resolver : Resolver) (expanding : List String) (expand : Expansion names)
    (expand' : Run.Expansion names) : Prop :=
  ∀ state, Fit expanding state → ∀ site name,
    Follows resolver expanding state (refusal expanding state site name)
      (expand site name expanding state) (expand' site name state)

theorem refusal_undefined (missing : (state.block? name).isSome = false) (site : Site) :
    refusal expanding state site name = [] := by simp [refusal, Defined, missing]

theorem plain_record (site : Site) (other : isRecursive ⟨site, cause⟩ = false) :
    Plain (Run.record site cause : Run names Unit) :=
  ⟨fun _ => rfl, fun _ => by simp [Run.record, other]⟩

variable {expand : Expansion names} {expand' : Run.Expansion names}

theorem follows_echo (answers : Answers resolver expanding expand expand')
    (fit : Fit expanding state) (site : Site) (name : String) (encoding : Option Encoding)
    (default : Option Template) :
    Follows resolver expanding state
      (refusals resolver expanding state site (.echo name encoding default))
      (echoOn expand site name encoding default expanding state)
      (Run.echo expand' site name encoding default state) := by
  apply follows_lift_bind (plain_ask _)
  · rintro abort ⟨⟩
  · rintro value ⟨⟩
    show Follows resolver expanding state _ _ _
    cases found : state.context.get? name with
    | some value =>
      have none : refusals resolver expanding state site (.echo name encoding default) = [] := by
        simp [refusals, fallback?, found]
      simp only [Query.get?, found, none]
      exact follows_bind (follows_lift (plain_look _)) fun _ _ => follows_lift (plain_emit _)
    | none =>
      have falls : refusals resolver expanding state site (.echo name encoding default) =
          refusal expanding state site name := by
        simp [refusals, fallback?, found]
      simp only [Query.get?, found, falls]
      apply follows_lift_bind (plain_block? _)
      · rintro abort ⟨⟩
      · rintro block ⟨⟩
        show Follows resolver expanding state _ _ _
        cases defined : (state.block? name).isSome with
        | true =>
          simp only [if_true]
          apply follows_bind (answers state fit site name)
          intro written _
          cases written with
          | some bytes => exact follows_lift (plain_emit _)
          | none => exact follows_lift plain_emit_error_message
        | false =>
          simp only [Bool.false_eq_true, if_false, refusal_undefined defined]
          apply follows_lift
          cases default with
          | some template => exact plain_bind (plain_ask _) fun _ => plain_emit _
          | none =>
            apply plain_bind (plain_look _)
            intro _
            exact plain_bind (plain_emit _) fun _ => plain_record site rfl

/-- The faults of a stub are those of a block that is called for, unless there is content. -/
theorem follows_stub (answers : Answers resolver expanding expand expand')
    (fit : Fit expanding state) (site : Site) (content : Option Bytes) (stub : Option String) :
    Follows resolver expanding state
      (match if content.any fun bytes => !bytes.isEmpty then none else stub with
        | some name => refusal expanding state site name
        | none => [])
      (substituteStubOn expand site content stub expanding state)
      (Run.substituteStub expand' site content stub state) := by
  cases stub with
  | none =>
    rw [ite_self]
    exact follows_pure content
  | some name =>
    simp only [substituteStubOn, Run.substituteStub]
    by_cases full : content.any fun bytes => !bytes.isEmpty
    · simp only [full, if_true]
      exact follows_pure content
    · simp only [full, Bool.false_eq_true, if_false]
      apply follows_lift_bind (plain_block? _)
      · rintro abort ⟨⟩
      · rintro block ⟨⟩
        show Follows resolver expanding state _ _ _
        cases defined : (state.block? name).isSome with
        | true => exact answers state fit site name
        | false =>
          simp only [Bool.false_eq_true, if_false, refusal_undefined defined]
          apply follows_bind (follows_lift (plain_record site rfl))
          intro _ _
          exact follows_pure content

theorem refusal_congr {later : EvalState names} (same : later.blocks = state.blocks) (site : Site)
    (name : String) : refusal expanding later site name = refusal expanding state site name := by
  simp only [refusal, defined_congr same]

theorem follows_inclusion (answers : Answers resolver expanding expand expand')
    (fit : Fit expanding state) (site : Site) (target : Target Template)
    (onError : Option Template) (store stub : Option String) :
    Follows resolver expanding state
      (refusals resolver expanding state site (.inclusion target onError store stub))
      (includeOn resolver expand site target onError store stub expanding state)
      (Run.inclusion resolver expand' site target onError store stub state) := by
  have plain : Plain (Run.fetch resolver site target onError : Run names (Option Bytes)) :=
    plain_fetch site target onError
  apply follows_lift_bind plain
  · intro abort ended
    simp [refusals, fallback?, ended]
  · intro content ended
    have still := plain.blocks state
    have falls := follows_stub answers (fit_kept fit fun name => (defined_congr still name).2) site
      content stub
    simp only [refusal_congr still] at falls
    simp only [refusals, fallback?, ended]
    apply follows_bind falls
    intro included _
    cases included with
    | none => exact follows_lift plain_emit_error_message
    | some bytes =>
      cases store with
      | none => exact follows_lift (plain_emit _)
      | some name => exact follows_lift (plain_change _)

theorem follows_leaf (answers : Answers resolver expanding expand expand')
    (fit : Fit expanding state) (site : Site) (content : Leaf) :
    Follows resolver expanding state (refusals resolver expanding state site content)
      (leafOn resolver expand site content expanding state)
      (Run.renderLeaf resolver expand' site content state) := by
  cases content with
  | echo name encoding default => exact follows_echo answers fit site name encoding default
  | inclusion target onError store stub =>
    exact follows_inclusion answers fit site target onError store stub
  | literal bytes => exact follows_lift (plain_emit bytes)
  | assign name value => exact follows_lift (plain_bind (plain_ask _) fun _ => plain_change _)
  | configure errorMessage missingMessage sizeFormat timeFormat =>
    apply follows_lift
    apply plain_bind (plain_substitute? errorMessage)
    intro _
    exact plain_bind (plain_substitute? missingMessage) fun _ => plain_change _
  | lastModified target => exact follows_lift (plain_describe site target fun _ => plain_ask _)
  | fileSize target =>
    apply follows_lift
    exact plain_describe site target fun _ => plain_bind (plain_look _) fun _ => plain_pure _
  | listVariables => exact follows_lift (plain_bind (plain_look _) fun _ => plain_emit _)
  | comment => exact follows_lift (plain_pure _)
  | unknown name => exact follows_lift (plain_pure _)

/-! ## Trees and blocks -/

theorem follows_visit (fit : Fit expanding state) {next : Stacked names Unit}
    {next' : Run names Unit}
    (later : Follows resolver expanding state
      ((⟨names, state, expanding, some node⟩ : Moment).refused resolver)
      (next expanding state) (next' state)) :
    Follows resolver expanding state [] ((visit node >>= fun _ => next) expanding state)
      (next' state) where
  same := later.same
  restored := later.restored
  kept := later.kept
  fit := List.forall_mem_cons.2 ⟨fit, later.fit⟩
  refused := later.refused

theorem name_of_block? (found : state.block? name = some block) : block.name = name := by
  have named := List.find?_some found
  simpa using named

/-- A block only takes the place of one that has its name. -/
theorem defined_define (block : DefinedBlock names) (name : String) (defined : Defined state name) :
    Defined (Run.define block state).state name := by
  obtain ⟨held, found⟩ := Option.isSome_iff_exists.1 defined
  have named := name_of_block? found
  unfold Defined EvalState.block?
  rw [List.find?_isSome]
  by_cases replaced : block.name = name
  · exact ⟨block, List.mem_cons_self, by simpa using replaced⟩
  · refine ⟨held, List.mem_cons_of_mem _ (List.mem_filter.2 ?_), by simpa using named⟩
    refine ⟨List.mem_of_find?_eq_some found, ?_⟩
    rw [named]
    simpa using Ne.symm replaced

theorem follows_define (block : DefinedBlock names) : Follows resolver expanding state []
    (lift (Run.define block) expanding state) (Run.define block state) :=
  ⟨rfl, rfl, defined_define block, List.forall_mem_nil _, rfl⟩

mutual

theorem follows_all (answers : Answers resolver expanding expand expand') :
    (nodes : List Node) → (within : Node.listBlockNames nodes ⊆ names) →
    ∀ state, Fit expanding state → Follows resolver expanding state []
      (allOn resolver expand nodes within expanding state)
      (Run.renderAll resolver expand' nodes within state)
  | [], _, state, _ => by
    simp only [allOn, Run.renderAll]
    exact follows_pure ()
  | node :: rest, within, state, fit => by
    simp only [allOn, Run.renderAll]
    have first := follows_node answers node (List.append_subset.1 within).1 state fit
    apply follows_bind first
    intro _ _
    apply follows_all answers rest
    exact fit_kept fit fun name defined => first.same ▸ first.kept name defined

theorem follows_node (answers : Answers resolver expanding expand expand') :
    (node : Node) → (within : node.blockNames ⊆ names) →
    ∀ state, Fit expanding state → Follows resolver expanding state []
      (nodeOn resolver expand node within expanding state)
      (Run.renderNode resolver expand' node within state)
  | .leaf span content, _, state, fit => by
    simp only [nodeOn, Run.renderNode]
    exact follows_visit fit (follows_leaf answers fit ⟨span.start, content.directive⟩ content)
  | .conditional span condition body rest, within, state, fit => by
    simp only [nodeOn, Run.renderNode]
    apply follows_visit fit
    apply follows_bind (follows_lift (plain_ask _))
    intro holds _
    cases holds with
    | true => exact follows_all answers body _ _ (fit_kept fit fun _ defined => defined)
    | false => exact follows_branches answers rest _ _ (fit_kept fit fun _ defined => defined)
  | .block span name body, within, state, fit => by
    simp only [nodeOn, Run.renderNode]
    exact follows_visit fit (follows_define _)

theorem follows_branches (answers : Answers resolver expanding expand expand') :
    (branches : Branches) → (within : branches.blockNames ⊆ names) →
    ∀ state, Fit expanding state → Follows resolver expanding state []
      (branchesOn resolver expand branches within expanding state)
      (Run.renderBranches resolver expand' branches within state)
  | .done, _, state, fit => by
    simp only [branchesOn, Run.renderBranches]
    exact follows_pure ()
  | .otherwise body, within, state, fit => by
    simp only [branchesOn, Run.renderBranches]
    exact follows_all answers body within state fit
  | .elif condition body rest, within, state, fit => by
    simp only [branchesOn, Run.renderBranches]
    apply follows_bind (follows_lift (plain_ask _))
    intro holds _
    cases holds with
    | true => exact follows_all answers body _ _ (fit_kept fit fun _ defined => defined)
    | false => exact follows_branches answers rest _ _ (fit_kept fit fun _ defined => defined)

end

theorem bind_stack (next : List String → Stacked names α) :
    (stack >>= next) expanding state = next expanding expanding state := rfl

/-- The name is taken off from what the step leaves on the stack, in either case. -/
theorem during_eq (name : String) (step : Stacked names α) :
    during name step expanding state =
      let reached := step (name :: expanding) state
      ⟨reached.toOutcome, reached.expanding.tail,
        ⟨names, state, name :: expanding, none⟩ ::
          (reached.moments ++ [⟨names, reached.state, reached.expanding.tail, none⟩])⟩ := by
  rcases ended : step (name :: expanding) state with ⟨⟨abort | value, later, log⟩, left, moments⟩
  · simp [during, bind, Stacked.andThen, push, pop, attempt, orAbort, change, ended]
  · simp [during, bind, Stacked.andThen, push, pop, attempt, orAbort, change, ended]

theorem follows_during {step : Stacked names α} {step' : Run names α} (fit : Fit expanding state)
    (fit' : Fit (name :: expanding) state)
    (follows : Follows resolver (name :: expanding) state [] (step (name :: expanding) state)
      (step' state)) :
    Follows resolver expanding state [] (during name step expanding state) (step' state) := by
  obtain ⟨same, restored, kept, fits, refused⟩ := follows
  rw [during_eq]
  simp only [restored, List.tail_cons]
  constructor
  · exact same
  · rfl
  · exact kept
  · intro moment member
    rcases List.mem_cons.1 member with rfl | later
    · exact fit'
    · rcases List.mem_append.1 later with inside | last
      · exact fits moment inside
      · rw [List.mem_singleton.1 last]
        exact fit_kept fit kept
  · simpa [Moment.refused] using refused

theorem follows_capture {step : Stacked names Unit} {step' : Run names Unit}
    (follows : Follows resolver expanding state faults (step expanding state) (step' state)) :
    Follows resolver expanding state faults (Stacked.capture step expanding state)
      (Run.capture step' state) where
  same := by simp only [Stacked.capture, Run.capture, follows.same]
  restored := follows.restored
  kept := follows.kept
  fit := follows.fit
  refused := follows.refused

/-- Blocks are rendered on the stack as they are in the chain, if their bodies are. -/
theorem answers_unless_held {renderBody : DefinedBlock names → Stacked names Unit}
    (bodies : ∀ block, block.name ∉ expanding → ∀ state, Fit (block.name :: expanding) state →
      Follows resolver (block.name :: expanding) state []
        (renderBody block (block.name :: expanding) state)
        (Run.renderAll resolver (Run.expand resolver (block.name :: expanding)) block.body
          block.body_names state)) :
    Answers resolver expanding (expandOn renderBody) (Run.expand resolver expanding) := by
  intro state fit site name
  rw [Termination.expand_eq]
  apply follows_lift_bind (plain_block? _)
  · exact nofun
  · rintro found ⟨⟩
    show Follows resolver expanding state _ _ _
    cases found : state.block? name with
    | none =>
      have missing : (state.block? name).isSome = false := by rw [found]; rfl
      rw [refusal_undefined missing]
      exact follows_pure none
    | some block =>
      have defined : Defined state name := by rw [Defined, found]; rfl
      have named := name_of_block? found
      subst named
      by_cases held : block.name ∈ expanding
      · have refused : refusal expanding state site block.name =
            [⟨site, .recursiveBlock block.name⟩] := if_pos ⟨defined, held⟩
        rw [refused]
        simp only [bind_stack, held, if_true]
        exact ⟨rfl, rfl, fun _ kept => kept, List.forall_mem_nil _, rfl⟩
      · have none : refusal expanding state site block.name = [] := if_neg fun both => held both.2
        have inside : Fit (block.name :: expanding) state :=
          ⟨fit.distinct.cons held, List.forall_mem_cons.2 ⟨defined, fit.defined⟩⟩
        rw [none]
        simp only [bind_stack, held, if_false]
        apply follows_bind (follows_during fit inside (follows_capture (bodies block held _ inside)))
        intro bytes _
        exact follows_pure (some bytes)

/-- The names of defined blocks are among those that there are. -/
theorem proper_of_fit (fit : Fit expanding state) : Proper names expanding := by
  refine ⟨fit.distinct, fun name member => ?_⟩
  obtain ⟨block, found⟩ := Option.isSome_iff_exists.1 (fit.defined name member)
  exact name_of_block? found ▸ block.name_mem

/-- With as many blocks left as the stack leaves names free, the limit is never met. -/
theorem answers_expand (beyond : DefinedBlock names → Stacked names Unit)
    (proper : Proper names expanding) (enough : names.dedup.length ≤ limit + expanding.length) :
    Answers resolver expanding (expandOn (bodyOn resolver beyond limit))
      (Run.expand resolver expanding) := by
  induction limit generalizing expanding with
  | zero =>
    have full : names.dedup.length ≤ expanding.length := by omega
    apply answers_unless_held
    intro block fresh
    exact absurd (mem_of_full proper full block.name_mem) fresh
  | succ limit ih =>
    apply answers_unless_held
    intro block fresh state fit
    have deeper : names.dedup.length ≤ limit + (block.name :: expanding).length := by
      rw [List.length_cons]
      omega
    exact follows_all (ih (proper_cons proper block.name_mem fresh) deeper) block.body _ state fit

end

/-! ## Calls one after another -/

/-- An evaluator between two calls, and the stack as it is then. -/
structure StackedEvaluator where
  evaluator : Evaluator
  expanding : List String

/-- What comes of a call, what it leaves, and the moments it passes. -/
structure Passage where
  ending : Ending
  left : StackedEvaluator
  moments : List Moment

/-- A rendering as a call, with what was in the log before it. -/
def passageOf (before : Log) (reached : Reached names Unit) : Passage :=
  ⟨.rendered reached.result,
    ⟨⟨names, reached.state, before ++ reached.log⟩, reached.expanding⟩, reached.moments⟩

/-- What comes of several calls. `between` are those before each call and after it. -/
structure History where
  endings : List Ending
  between : List (List String)
  last : StackedEvaluator
  moments : List Moment

section

variable (resolver : Resolver)
  (beyond : (names : List String) → DefinedBlock names → Stacked names Unit)
  (limit : Nat)

/-- Serves a call with the stack that is there. Conditions call for no blocks. -/
def serveOn (held : StackedEvaluator) : Call → Passage
  | .render nodes =>
    let ready := held.evaluator.widen (Node.listBlockNames nodes)
    passageOf ready.log (allOn resolver (expandOn (bodyOn resolver (beyond ready.names) limit)) nodes
      (block_names_known held.evaluator nodes) held.expanding ready.state)
  | .settle condition =>
    let (holds, next) := held.evaluator.truth condition
    ⟨.settled holds, ⟨next, held.expanding⟩, []⟩

def serveAllOn (held : StackedEvaluator) : List Call → History
  | [] => ⟨[], [], held, []⟩
  | call :: later =>
    let passage := serveOn resolver beyond limit held call
    let history := serveAllOn passage.left later
    ⟨passage.ending :: history.endings,
      held.expanding :: passage.left.expanding :: history.between, history.last,
      passage.moments ++ history.moments⟩

end

variable (resolver : Resolver)
  (beyond : (names : List String) → DefinedBlock names → Stacked names Unit)

/-- The faults of recursion that an evaluator has on record. -/
def recursions (evaluator : Evaluator) : List Fault := evaluator.log.faults.filter isRecursive

theorem passage_of_follows (follows : Follows resolver [] state [] reached outcome) (before : Log) :
    let passage := passageOf before reached
    let evaluator : Evaluator := ⟨_, outcome.state, before ++ outcome.log⟩
    passage.ending = .rendered outcome.result ∧ passage.left = ⟨evaluator, []⟩ ∧
      (∀ moment ∈ passage.moments, Fit moment.expanding moment.state) ∧
      recursions evaluator =
        before.faults.filter isRecursive ++ passage.moments.flatMap (·.refused resolver) := by
  obtain ⟨rfl, restored, -, fit, refused⟩ := follows
  refine ⟨rfl, ?_, fit, ?_⟩
  · rw [passageOf, restored]
  · exact (List.filter_append ..).trans (congrArg _ refused)

theorem serve_on_empty (evaluator : Evaluator) (call : Call)
    (known : evaluator.names ++ call.blockNames ⊆ all) :
    let passage := serveOn resolver beyond all.dedup.length ⟨evaluator, []⟩ call
    let served := serve resolver evaluator call
    passage.ending = served.1 ∧ passage.left = ⟨served.2, []⟩ ∧
      (∀ moment ∈ passage.moments, Fit moment.expanding moment.state) ∧
      recursions served.2 = recursions evaluator ++ passage.moments.flatMap (·.refused resolver) := by
  cases call with
  | settle condition => exact ⟨rfl, rfl, List.forall_mem_nil _, List.filter_append ..⟩
  | render nodes =>
    let ready := evaluator.widen (Node.listBlockNames nodes)
    have enough : ready.names.dedup.length ≤ all.dedup.length + ([] : List String).length :=
      Termination.dedup_length_le known
    have empty : Fit [] ready.state := ⟨List.nodup_nil, nofun⟩
    have answers : Answers resolver [] (expandOn (bodyOn resolver (beyond ready.names) _))
        (Run.expand resolver []) := answers_expand (beyond ready.names) proper_nil enough
    exact passage_of_follows resolver (follows_all answers nodes (block_names_known evaluator nodes)
      ready.state empty) ready.log

theorem serve_all_on_empty (calls : List Call) (evaluator : Evaluator)
    (known : evaluator.names ++ calls.flatMap Call.blockNames ⊆ all) :
    let history := serveAllOn resolver beyond all.dedup.length ⟨evaluator, []⟩ calls
    let served := serveAll resolver evaluator calls
    history.endings = served.1 ∧ history.last = ⟨served.2, []⟩ ∧
      (∀ stack ∈ history.between, stack = []) ∧
      (∀ moment ∈ history.moments, Fit moment.expanding moment.state) ∧
      recursions served.2 = recursions evaluator ++ history.moments.flatMap (·.refused resolver) := by
  induction calls generalizing evaluator with
  | nil => exact ⟨rfl, rfl, List.forall_mem_nil _, List.forall_mem_nil _, (List.append_nil _).symm⟩
  | cons call later ih =>
    rw [List.flatMap_cons, ← List.append_assoc] at known
    obtain ⟨ending, left, fit, faults⟩ := serve_on_empty resolver beyond evaluator call
      (List.append_subset.1 known).1
    have after : (serve resolver evaluator call).2.names = evaluator.names ++ call.blockNames := by
      cases call with
      | render nodes => rfl
      | settle condition => exact (List.append_nil _).symm
    rw [← after] at known
    obtain ⟨endings, last, between, fits, faults'⟩ := ih _ known
    simp only [serveAllOn, left]
    refine ⟨?endings, last, ?between, List.forall_mem_append.2 ⟨fit, fits⟩, ?faults⟩
    case endings => rw [ending, endings, serveAll]
    case between => exact List.forall_mem_cons.2 ⟨rfl, List.forall_mem_cons.2 ⟨rfl, between⟩⟩
    case faults =>
      rw [List.flatMap_append, ← List.append_assoc, ← faults]
      exact faults'

/-- Blocks are refused exactly where they are called for inside themselves. Evaluators that keep a
stack of the blocks being rendered answer all calls as evaluators do that hand the chain of blocks
down, whatever they would do with blocks deeper inside one another than there are names. Before and
after each call the stack is empty, also after one that a fatal answer has ended, so that no call
takes a block of an earlier one for one that is being rendered. At all times the stack holds names of
blocks that are defined, each of them once. The faults of recursion are those of the echoes and
inclusions that were come to and fell back on a block that was defined and on the stack; and rendering
a block leaves the stack as it was, also if it ends with a fatal answer. -/
theorem serve_all_on_stack (resolver : Resolver) (context : Context) (calls : List Call)
    (beyond : (names : List String) → DefinedBlock names → Stacked names Unit) :
    let limit := (calls.flatMap Call.blockNames).dedup.length
    let history := serveAllOn resolver beyond limit ⟨.ofContext context, []⟩ calls
    let (endings, last) := serveAll resolver (.ofContext context) calls
    history.endings = endings ∧ history.last = ⟨last, []⟩ ∧
    (∀ stack ∈ history.between, stack = []) ∧
    (∀ moment ∈ history.moments, Fit moment.expanding moment.state) ∧
    last.log.faults.filter isRecursive = history.moments.flatMap (·.refused resolver) ∧
    ∀ names limit expanding (state : EvalState names), Fit expanding state →
      names.dedup.length ≤ limit + expanding.length → ∀ site name,
        (expandOn (bodyOn resolver (beyond names) limit) site name expanding state).expanding =
          expanding := by
  obtain ⟨endings, last, between, fit, faults⟩ := serve_all_on_empty resolver beyond calls
    (.ofContext context) (List.Subset.refl _)
  refine ⟨endings, last, between, fit, faults, ?_⟩
  intro names limit expanding state fit enough site name
  exact (answers_expand (beyond names) (proper_of_fit fit) enough state fit site name).restored

end ServerIncludes.Expanding
