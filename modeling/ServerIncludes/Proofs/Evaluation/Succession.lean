import ServerIncludes.Proofs.Evaluation.Effects
import ServerIncludes.Proofs.Evaluation.Failures

/-! Evaluations one after another, each of which starts from the context that the one before it has
returned. An evaluation keeps the defaults of the settings, the fallback source and the clocks, and it
makes use of nothing in a context but these and the variables. So all that an evaluation can tell of
those before it are the variables that they have left. -/
namespace ServerIncludes.Succession

open Accesses Effects Failures Plans

/-- A tree to evaluate, and the resolver that it is evaluated with. -/
structure Task where
  nodes : List Node
  resolver : Resolver

abbrev Evaluated : Type := Except Abort Report × Log

/-- What comes of each task if the tasks are taken in turn, each with the context that the one before
has returned. After a fatal answer there is none to go on with. -/
def inTurn (context : Context) : List Task → List Evaluated
  | [] => []
  | task :: later =>
    let evaluated := evaluate task.resolver context task.nodes
    evaluated :: match evaluated.1 with
      | .ok report => inTurn report.context later
      | .error _ => []

/-- A new context, which has the defaults, the fallback source and the clocks of another one, and
variables that are set one by one. -/
def fresh (origin : Context) (bindings : Variables) : Context :=
  { Context.ofSettings origin.defaults with
    bindings := .ofList bindings.entries
    fallback := origin.fallback
    now := origin.now
    localOffset := origin.localOffset }

/-- What comes of each task if it has a new context, with nothing in it from the tasks before but the
variables. -/
def apart (origin : Context) (bindings : Variables) : List Task → List Evaluated
  | [] => []
  | task :: later =>
    let evaluated := evaluate task.resolver (fresh origin bindings) task.nodes
    evaluated :: match evaluated.1 with
      | .ok report => apart origin report.context.bindings later
      | .error _ => []

/-! ## Variables that are set one by one -/

/-- A name beyond all others goes behind them. -/
theorem insert_entry_last {entries : List (String × String)}
    (beyond : ∀ entry ∈ entries, entry.1 < name) (value : String) :
    Variables.insertEntry name value entries = entries ++ [(name, value)] := by
  induction entries with
  | nil => rfl
  | cons first rest ih =>
    obtain ⟨before, others⟩ := List.forall_mem_cons.1 beyond
    have other : name ≠ first.1 := fun same => String.lt_irrefl _ (same ▸ before)
    rw [Variables.insertEntry, if_neg (String.lt_asymm before), if_neg other, ih others,
      List.cons_append]

theorem set_all_entries (bindings : Variables) (pairs : List (String × String))
    (increasing : (bindings.entries ++ pairs).Pairwise fun a b => a.1 < b.1) :
    (bindings.setAll pairs).entries = bindings.entries ++ pairs := by
  induction pairs generalizing bindings with
  | nil => exact (List.append_nil _).symm
  | cons pair rest ih =>
    have beyond : ∀ entry ∈ bindings.entries, entry.1 < pair.1 := fun entry held =>
      (List.pairwise_append.1 increasing).2.2 entry held pair List.mem_cons_self
    have entries : (bindings.set pair.1 pair.2).entries = bindings.entries ++ [pair] :=
      insert_entry_last beyond pair.2
    rw [List.append_cons, ← entries] at increasing ⊢
    exact ih _ increasing

theorem variables_eq {bindings bindings' : Variables} (same : bindings.entries = bindings'.entries) :
    bindings = bindings' := by
  cases bindings
  cases bindings'
  cases same
  rfl

/-- Variables that are set one by one are the same variables. -/
theorem of_list_entries (bindings : Variables) : Variables.ofList bindings.entries = bindings :=
  variables_eq (set_all_entries .empty bindings.entries bindings.increasing)

/-! ## What an evaluation starts from and what it keeps -/

/-- Contexts that may differ in their variables and in the settings of the moment. -/
structure Akin (origin context : Context) : Prop where
  defaults : context.defaults = origin.defaults
  fallback : context.fallback = origin.fallback
  now : context.now = origin.now
  localOffset : context.localOffset = origin.localOffset

theorem akin_refl (context : Context) : Akin context context := ⟨rfl, rfl, rfl, rfl⟩

theorem akin_trans (first : Akin origin context) (second : Akin context context') :
    Akin origin context' :=
  ⟨second.defaults.trans first.defaults, second.fallback.trans first.fallback,
    second.now.trans first.now, second.localOffset.trans first.localOffset⟩

/-- What is returned is akin to what was given, whatever the nodes did on the way. -/
theorem akin_evaluate (ended : (evaluate resolver context nodes).1 = .ok report) :
    Akin context report.context := by
  have changes : Changes (fun _ => True) (fun _ => True) context.resetSettings
      (outcomeOf resolver context nodes).state.context := by
    have accounts : Accounts _ _ (outcomeOf resolver context nodes) := accounts_run _ _
    rw [← accounts.after]
    exact changes_replay (fun access _ => allowed_any access) _
  rw [report_of_evaluate ended]
  exact ⟨changes.defaults, changes.fallback, changes.now, changes.localOffset⟩

/-- The settings of the moment make no difference, since an evaluation starts from the defaults. -/
theorem evaluate_fresh (akin : Akin origin context) (resolver : Resolver) (nodes : List Node) :
    evaluate resolver context nodes = evaluate resolver (fresh origin context.bindings) nodes := by
  have same : context.resetSettings = (fresh origin context.bindings).resetSettings := by
    unfold Context.resetSettings fresh Context.ofSettings
    rw [of_list_entries, akin.defaults, akin.fallback, akin.now, akin.localOffset]
  unfold evaluate
  rw [same]

theorem in_turn_eq_apart (akin : Akin origin context) (tasks : List Task) :
    inTurn context tasks = apart origin context.bindings tasks := by
  induction tasks generalizing context with
  | nil => rfl
  | cons task later ih =>
    rw [inTurn, apart, ← evaluate_fresh akin]
    cases ended : (evaluate task.resolver context task.nodes).1 with
    | error abort => rfl
    | ok report => exact congrArg _ (ih (akin_trans akin (akin_evaluate ended)))

theorem akin_in_turn (akin : Akin origin context) (tasks : List Task) :
    ∀ evaluated ∈ inTurn context tasks, ∀ report, evaluated.1 = .ok report →
      Akin origin report.context := by
  induction tasks generalizing context with
  | nil => exact List.forall_mem_nil _
  | cons task later ih =>
    rw [inTurn]
    refine List.forall_mem_cons.2 ⟨?_, ?_⟩
    · intro report ended
      exact akin_trans akin (akin_evaluate ended)
    · cases ended : (evaluate task.resolver context task.nodes).1 with
      | error abort => exact List.forall_mem_nil _
      | ok report => exact ih (akin_trans akin (akin_evaluate ended))

/-- Evaluations that are made in turn have the same results as if each of them had a new context, with
the defaults, the fallback source and the clock of the first one and the variables that the one before
has left: nothing else that was evaluated earlier has an effect. The defaults, the fallback source and
the clock are the same in every context that is returned. -/
theorem evaluate_in_turn (context : Context) (tasks : List Task) :
    inTurn context tasks = apart context context.bindings tasks ∧
      ∀ evaluated ∈ inTurn context tasks, ∀ report, evaluated.1 = .ok report →
        Akin context report.context :=
  ⟨in_turn_eq_apart (akin_refl context) tasks, akin_in_turn (akin_refl context) tasks⟩

/-- The message that one evaluation sets is not that of the next one, which finds the variable. -/
theorem evaluate_in_turn_configured :
    let missing : Leaf := .inclusion (.virtual ⟨[.text "/missing"]⟩) none none none
    let resolver := FileStore.empty.resolver
    let tasks : List Task := [
      ⟨[.leaf ⟨0, 30⟩ (.configure (some ⟨[.text "custom"]⟩) none none none),
        .leaf ⟨30, 50⟩ (.assign "x" ⟨[.text "1"]⟩), .leaf ⟨50, 80⟩ missing], resolver⟩,
      ⟨[.leaf ⟨0, 30⟩ missing, .leaf ⟨30, 50⟩ (.echo "x" none none)], resolver⟩]
    let context := Context.ofSettings .standard
    (inTurn context tasks).map (·.2.output) =
        [Bytes.ofText "custom", Bytes.ofText (Settings.standard.errorMessage ++ "1")] ∧
      inTurn context tasks = apart context context.bindings tasks := by
  intro missing resolver tasks context
  have outputs : (inTurn context tasks).map (·.2.output) =
      [Bytes.ofText "custom", Bytes.ofText (Settings.standard.errorMessage ++ "1")] := by
    decide +kernel
  exact ⟨outputs, (evaluate_in_turn context tasks).1⟩

end ServerIncludes.Succession
