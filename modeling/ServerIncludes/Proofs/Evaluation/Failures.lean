import ServerIncludes.Proofs.Evaluation.Questions

/-! What a resolver fails to give is neither lost nor made up. A fatal answer is the last one of an
evaluation, which ends with it and with the place of the node that asked. Each other failure is recorded
once, for the node that asked, in the order of the questions. -/
namespace ServerIncludes.Failures

open Plans Questions

def failureOf : Except ResolveError α → Option ResolveError
  | .ok _ => none
  | .error error => some error

/-- How a resolver fails on a question that is put after some earlier ones. -/
def failure? (resolver : Resolver) (earlier : List ResolverCall) : ResolverCall → Option ResolveError
  | .resolve target => failureOf (resolver.content earlier target)
  | .metadata target => failureOf (resolver.facts earlier target)

/-- A question that has been put, and how the resolver failed on it, if it did. -/
structure Exchange extends Question where
  failure : Option ResolveError

namespace Exchange

def isFatal (exchange : Exchange) : Bool := exchange.failure.any (·.isFatal)

/-- The fault to be recorded after an answer that the evaluation goes on after. -/
def fault? (exchange : Exchange) : Option Fault :=
  (exchange.failure.filter (!·.isFatal)).map fun error => ⟨siteOf exchange.node, .unresolved error⟩

end Exchange

/-- Puts questions one after another to a resolver that was asked some others before. -/
def put (resolver : Resolver) : List ResolverCall → List Question → List Exchange
  | _, [] => []
  | earlier, question :: later =>
    ⟨question, failure? resolver earlier question.call⟩ ::
      put resolver (earlier ++ [question.call]) later

/-- The last of some answers was fatal, and none before it; it is the one that an abort tells of. -/
inductive Cut : List Exchange → Abort → Prop where
  | last (harmless : ∀ exchange ∈ exchanges, exchange.isFatal = false) (fatal : error.isFatal = true) :
    Cut (exchanges ++ [⟨question, some error⟩]) ⟨siteOf question.node, error⟩

/-- The end that some answers lead to: on, if none of them was fatal. -/
def Ends (exchanges : List Exchange) : Except Abort α → Prop
  | .ok _ => ∀ exchange ∈ exchanges, exchange.isFatal = false
  | .error abort => Cut exchanges abort

/-- An outcome that tells of some questions just what the resolver failed to answer. -/
structure Tells (resolver : Resolver) (earlier : List ResolverCall) (asked : List Question)
    (outcome : Outcome names α) : Prop where
  calls : outcome.log.calls = asked.map (·.call)
  history : outcome.state.history = earlier ++ asked.map (·.call)
  recorded : outcome.log.faults.filter (fromResolver ·.cause) =
    (put resolver earlier asked).filterMap Exchange.fault?
  ends : Ends (put resolver earlier asked) outcome.result

variable {names : List String} {resolver : Resolver}

theorem put_append (resolver : Resolver) (earlier : List ResolverCall) (first second : List Question) :
    put resolver earlier (first ++ second) =
      put resolver earlier first ++ put resolver (earlier ++ first.map (·.call)) second := by
  induction first generalizing earlier with
  | nil => simp [put]
  | cons question rest ih => simp [put, ih]

theorem put_questions (resolver : Resolver) (earlier : List ResolverCall) (asked : List Question) :
    (put resolver earlier asked).map (·.toQuestion) = asked := by
  induction asked generalizing earlier with
  | nil => rfl
  | cons question rest ih => simp [put, ih]

theorem cut_append (harmless : ∀ exchange ∈ before, exchange.isFatal = false)
    (cut : Cut exchanges abort) : Cut (before ++ exchanges) abort := by
  cases cut with
  | last later fatal =>
    rw [← List.append_assoc]
    exact .last (List.forall_mem_append.2 ⟨harmless, later⟩) fatal

theorem cut_first (fatal : error.isFatal = true) :
    Cut [⟨question, some error⟩] ⟨siteOf question.node, error⟩ := by
  have none : ∀ exchange ∈ ([] : List Exchange), exchange.isFatal = false := nofun
  exact .last none fatal

theorem ends_append {result : Except Abort α}
    (harmless : ∀ exchange ∈ before, exchange.isFatal = false) (ends : Ends exchanges result) :
    Ends (before ++ exchanges) result := by
  cases result with
  | ok value => exact List.forall_mem_append.2 ⟨harmless, ends⟩
  | error abort => exact cut_append harmless ends

theorem ends_map {result : Except Abort α} (read : α → β) (ends : Ends exchanges result) :
    Ends exchanges (result.map read) := by
  cases result with
  | ok value => exact ends
  | error abort => exact ends

/-- An evaluation ends early exactly if there was a fatal answer. -/
theorem error_iff_fatal {result : Except Abort α} (ends : Ends exchanges result) :
    (∃ abort, result = .error abort) ↔ ∃ exchange ∈ exchanges, exchange.isFatal = true := by
  cases result with
  | ok value =>
    constructor
    · rintro ⟨abort, ⟨⟩⟩
    · rintro ⟨exchange, member, fatal⟩
      have harmless := ends exchange member
      rw [fatal] at harmless
      cases harmless
  | error abort =>
    constructor
    · rintro -
      cases ends with
      | last _ fatal => exact ⟨_, List.mem_append_right _ (List.mem_singleton_self _), fatal⟩
    · rintro -
      exact ⟨abort, rfl⟩

/-- A step that asks nothing, ends nothing and records nothing of a resolver. -/
theorem tells_idle {outcome : Outcome names α} (calls : outcome.log.calls = [])
    (history : outcome.state.history = earlier)
    (recorded : ∀ fault ∈ outcome.log.faults, fromResolver fault.cause = false)
    (ended : outcome.result = .ok value) : Tells resolver earlier [] outcome where
  calls := calls
  history := by simpa using history
  recorded := by simpa [put] using recorded
  ends := by
    rw [ended]
    exact nofun

theorem tells_bind {first : Run names α} {next : α → Run names β}
    {further : α → EvalState names → List Question}
    (told : Tells resolver state.history asked (first state))
    (later : ∀ value, (first state).result = .ok value →
      Tells resolver (first state).state.history (further value (first state).state)
        (next value (first state).state)) :
    Tells resolver state.history (asked ++ onwards (first state) further)
      ((first >>= next) state) := by
  have ends := told.ends
  unfold onwards
  cases ended : (first state).result with
  | error abort =>
    rw [ended] at ends
    rw [bind_of_error ended, List.append_nil]
    exact ⟨told.calls, told.history, told.recorded, ends⟩
  | ok value =>
    -- nothing was fatal so far, so that what follows is put after the calls of the first step
    have after := later value ended
    rw [ended] at ends
    rw [bind_of_ok ended]
    constructor
    · simp only [Log.append_def, Log.append, told.calls, after.calls, List.map_append]
    · rw [List.map_append, ← List.append_assoc, ← told.history]
      exact after.history
    · rw [put_append, ← told.history, List.filterMap_append, ← told.recorded, ← after.recorded]
      exact List.filter_append ..
    · rw [put_append, ← told.history]
      exact ends_append ends after.ends

theorem tells_consult (node : Node) (state : EvalState names) (call : ResolverCall)
    (answer : List ResolverCall → Except ResolveError α)
    (fails : failure? resolver state.history call = failureOf (answer state.history)) :
    Tells resolver state.history [⟨node, call⟩] (Run.consult call answer (siteOf node) state) := by
  unfold Run.consult
  cases answered : answer state.history with
  | ok value =>
    rw [answered] at fails
    constructor
    · rfl
    · rfl
    · simp [put, fails, failureOf, Exchange.fault?, Log.empty]
    · simp [Ends, put, fails, failureOf, Exchange.isFatal]
  | error error =>
    rw [answered] at fails
    by_cases fatal : error.isFatal
    · simp only [fatal, if_true]
      constructor
      · rfl
      · rfl
      · simp [put, fails, failureOf, Exchange.fault?, Log.empty, fatal]
      · simp only [put, fails]
        exact cut_first fatal
    · simp only [fatal, Bool.false_eq_true, if_false]
      constructor
      · rfl
      · rfl
      · simp [put, fails, failureOf, Exchange.fault?, fatal, fromResolver]
      · simp [Ends, put, fails, failureOf, Exchange.isFatal, fatal]

theorem tells_step (node : Node) (step : Step names α) (state : EvalState names) :
    Tells resolver state.history (step.call?.map (Question.mk node)).toList
      (step.run resolver (siteOf node) state) := by
  cases step with
  | resolve target => exact tells_consult node state (.resolve target) (resolver.content · target) rfl
  | metadata target => exact tells_consult node state (.metadata target) (resolver.facts · target) rfl
  | record cause own =>
    refine tells_idle rfl rfl ?_ rfl
    intro fault member
    rw [List.mem_singleton.1 member]
    exact own
  | _ => exact tells_idle rfl rfl nofun rfl

theorem tells_capture {body : Run names Unit}
    (told : Tells resolver state.history asked (body state)) :
    Tells resolver state.history asked (Run.capture body state) :=
  ⟨told.calls, told.history, told.recorded, ends_map _ told.ends⟩

/-- Carrying out a plan tells of its questions just what the resolver failed to answer. -/
theorem tells_run (plan : Plan names α) (state : EvalState names) :
    Tells resolver state.history (questions resolver plan state) (plan.run resolver state) := by
  induction plan generalizing state with
  | done value => exact tells_idle rfl rfl nofun rfl
  | step node first next ih =>
    exact tells_bind (tells_step node first state) fun answer _ => ih answer _
  | inside name body next inner ih =>
    exact tells_bind (tells_capture (inner state)) fun bytes _ => ih bytes _

/-- The questions that are put when a tree is evaluated. -/
def asked (resolver : Resolver) (context : Context) (nodes : List Node) : List Question :=
  questions resolver (ofTree nodes (List.Subset.refl (Node.listBlockNames nodes)))
    ⟨context.resetSettings, [], []⟩

/-- The outcome of evaluating a tree. -/
def outcomeOf (resolver : Resolver) (context : Context) (nodes : List Node) :
    Outcome (Node.listBlockNames nodes) Unit :=
  (ofTree nodes (List.Subset.refl (Node.listBlockNames nodes))).run resolver
    ⟨context.resetSettings, [], []⟩

theorem evaluate_eq (resolver : Resolver) (context : Context) (nodes : List Node) :
    let outcome := outcomeOf resolver context nodes
    evaluate resolver context nodes =
      (outcome.result.map fun _ => ⟨outcome.log.output, outcome.log.faults, outcome.state.context⟩,
        outcome.log) := by
  unfold outcomeOf
  rw [run_of_tree]
  rfl

theorem log_of_evaluate (resolver : Resolver) (context : Context) (nodes : List Node) :
    (evaluate resolver context nodes).2 = (outcomeOf resolver context nodes).log := by
  rw [evaluate_eq]

theorem abort_of_evaluate (ended : (evaluate resolver context nodes).1 = .error abort) :
    (outcomeOf resolver context nodes).result = .error abort := by
  rw [evaluate_eq] at ended
  cases ran : (outcomeOf resolver context nodes).result with
  | ok value =>
    rw [ran] at ended
    cases ended
  | error fatal =>
    rw [ran] at ended
    cases ended
    rfl

theorem report_of_evaluate (ended : (evaluate resolver context nodes).1 = .ok report) :
    let outcome := outcomeOf resolver context nodes
    report = ⟨outcome.log.output, outcome.log.faults, outcome.state.context⟩ := by
  rw [evaluate_eq] at ended
  cases ran : (outcomeOf resolver context nodes).result with
  | error abort =>
    rw [ran] at ended
    cases ended
  | ok value =>
    rw [ran] at ended
    exact (Except.ok.inj ended).symm

/-- The faults on record are all those that the evaluation has come upon. -/
theorem faults_of_report (ended : (evaluate resolver context nodes).1 = .ok report) :
    report.faults = (outcomeOf resolver context nodes).log.faults :=
  congrArg Report.faults (report_of_evaluate ended)

theorem tells_evaluate (resolver : Resolver) (context : Context) (nodes : List Node) :
    Tells resolver [] (asked resolver context nodes) (outcomeOf resolver context nodes) :=
  tells_run (ofTree nodes (List.Subset.refl _)) ⟨context.resetSettings, [], []⟩

/-- Of failures that are not fatal, each one is recorded. -/
theorem faults_of_harmless {exchanges : List Exchange}
    (harmless : ∀ exchange ∈ exchanges, exchange.isFatal = false) :
    exchanges.filterMap Exchange.fault? = exchanges.filterMap fun exchange =>
      exchange.failure.map fun error => ⟨siteOf exchange.node, .unresolved error⟩ := by
  apply List.filterMap_congr
  intro exchange member
  have mild := harmless exchange member
  unfold Exchange.isFatal at mild
  unfold Exchange.fault?
  cases failed : exchange.failure with
  | none => rfl
  | some error =>
    rw [failed, Option.any_some] at mild
    simp only [Option.filter_some, mild, Bool.not_false, if_true]

/-- Nothing that a resolver fails to answer is lost, and nothing is told twice. The calls of an
evaluation are questions of nodes of its tree. It ends early exactly if one of the answers is fatal;
that is then the last one, and the abort tells it with the place of the node that asked. Otherwise the
faults on record that come from the resolver are its failures in order, each with the place of the
node that asked and the message of the failure. -/
theorem evaluate_failures (resolver : Resolver) (context : Context) (nodes : List Node) :
    let exchanges := put resolver [] (asked resolver context nodes)
    let evaluated := evaluate resolver context nodes
    evaluated.2.calls = exchanges.map (·.call) ∧
    (∀ exchange ∈ exchanges, Has nodes exchange.node ∧ Puts exchange.node exchange.call) ∧
    ((∃ abort, evaluated.1 = .error abort) ↔ ∃ exchange ∈ exchanges, exchange.isFatal = true) ∧
    (∀ abort, evaluated.1 = .error abort → Cut exchanges abort) ∧
    ∀ report, evaluated.1 = .ok report →
      (report.faults.filter (fromResolver ·.cause)).map
          (fun fault => (fault.site, fault.cause, fault.cause.message)) =
        exchanges.filterMap fun exchange => exchange.failure.map fun error =>
          (siteOf exchange.node, .unresolved error, error.message) := by
  have told := tells_evaluate resolver context nodes
  have listed := put_questions resolver [] (asked resolver context nodes)
  intro exchanges evaluated
  have same : evaluated = _ := evaluate_eq resolver context nodes
  have ends : Ends exchanges evaluated.1 := by
    rw [same]
    exact ends_map _ told.ends
  refine ⟨?calls, ?nodes, error_iff_fatal ends, ?abort, ?recorded⟩
  case calls =>
    rw [same]
    show _ = exchanges.map _
    rw [told.calls, ← listed, List.map_map]
    rfl
  case nodes =>
    intro exchange member
    have asking : exchange.toQuestion ∈ asked resolver context nodes := by
      rw [← listed]
      exact List.mem_map_of_mem member
    exact questions_of_stays (stays_of_tree nodes (List.Subset.refl _)) (known_empty rfl) _ asking
  case abort =>
    intro abort ended
    rw [ended] at ends
    exact ends
  case recorded =>
    intro report ended
    rw [ended] at ends
    rw [faults_of_report ended, told.recorded, faults_of_harmless ends, List.map_filterMap]
    simp only [Option.map_map]
    rfl

end ServerIncludes.Failures
