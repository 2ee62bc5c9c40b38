import ServerIncludes.Proofs.Evaluation.Accesses

/-! What calls of an evaluator change, and what they cannot. A variable gets a value only where a node
at hand or a settled condition gives it one, and none is ever lost; a setting changes only where a node
gives it; all else in a context stays. Nothing that has had a value is asked of the fallback source. -/
namespace ServerIncludes.Effects

open Plans Questions Accesses
open Sessions
open Termination (block_names_known)

inductive Setting where
  | errorMessage
  | missingMessage
  | sizeFormat
  | timeFormat
  | encoding

namespace Setting

def Kept (before after : Settings) : Setting → Prop
  | errorMessage => after.errorMessage = before.errorMessage
  | missingMessage => after.missingMessage = before.missingMessage
  | sizeFormat => after.sizeFormat = before.sizeFormat
  | timeFormat => after.timeFormat = before.timeFormat
  | encoding => after.encoding = before.encoding

/-- The setting is among those that are given. No directive gives the encoding. -/
def Given (errors missing : Option α) (size : Option SizeFormat) (time : Option String) :
    Setting → Prop
  | errorMessage => errors.isSome
  | missingMessage => missing.isSome
  | sizeFormat => size.isSome
  | timeFormat => time.isSome
  | encoding => False

theorem kept_trans {setting : Setting} (first : setting.Kept before middle)
    (second : setting.Kept middle after) : setting.Kept before after := by
  cases setting <;> exact Eq.trans second first

/-- A setting that is not given is kept. -/
theorem kept_of_not_given {setting : Setting} (free : ¬setting.Given errors missing size time)
    (context : Context) :
    setting.Kept context.settings (changeSettings errors missing size time context).settings := by
  cases setting with
  | encoding => rfl
  | _ =>
    simp only [Given, Option.not_isSome_iff_eq_none] at free
    simp only [Kept, changeSettings, free, Option.getD_none]

end Setting

/-! ## What accesses change -/

/-- Nothing differs between two contexts but values of names that may be bound, and settings that
may be set. -/
structure Changes (mayBind : String → Prop) (maySet : Setting → Prop) (before after : Context) :
    Prop where
  kept : ∀ name, (before.bindings.get? name).isSome → (after.bindings.get? name).isSome
  bound : ∀ name, after.bindings.get? name ≠ before.bindings.get? name → mayBind name
  set : ∀ setting : Setting, ¬setting.Kept before.settings after.settings → maySet setting
  defaults : after.defaults = before.defaults
  fallback : after.fallback = before.fallback
  now : after.now = before.now
  localOffset : after.localOffset = before.localOffset

/-- An access binds only names that may be bound, and sets only what may be set. -/
def Allowed (mayBind : String → Prop) (maySet : Setting → Prop) : Access → Prop
  | .lookup _ => True
  | .unwritable _ => True
  | .store name _ => mayBind name
  | .configure errorMessage missingMessage sizeFormat timeFormat => ∀ setting : Setting,
    setting.Given errorMessage missingMessage sizeFormat timeFormat → maySet setting

section

variable {mayBind : String → Prop} {maySet : Setting → Prop}

theorem changes_refl (context : Context) : Changes mayBind maySet context context where
  kept := fun _ => id
  bound := fun _ differs => absurd rfl differs
  set := fun setting differs => absurd (by cases setting <;> rfl) differs
  defaults := rfl
  fallback := rfl
  now := rfl
  localOffset := rfl

theorem changes_trans (first : Changes mayBind maySet before middle)
    (second : Changes mayBind maySet middle after) : Changes mayBind maySet before after where
  kept := fun name held => second.kept name (first.kept name held)
  bound := by
    intro name differs
    by_cases same : after.bindings.get? name = middle.bindings.get? name
    · exact first.bound name (same ▸ differs)
    · exact second.bound name same
  set := by
    intro setting differs
    by_cases same : setting.Kept before.settings middle.settings
    · exact second.set setting fun still => differs (Setting.kept_trans same still)
    · exact first.set setting same
  defaults := second.defaults.trans first.defaults
  fallback := second.fallback.trans first.fallback
  now := second.now.trans first.now
  localOffset := second.localOffset.trans first.localOffset

theorem changes_set (name value : String) (may : mayBind name) (context : Context) :
    Changes mayBind maySet context (context.set name value) where
  kept := by
    intro asked held
    by_cases same : asked = name
    · simp only [same, Context.set, Variables.get?_set_self, Option.isSome_some]
    · simpa only [Context.set, Variables.get?_set_of_ne same] using held
  bound := by
    intro asked differs
    by_cases same : asked = name
    · exact same ▸ may
    · exact absurd (Variables.get?_set_of_ne same context.bindings value) differs
  set := fun setting differs => absurd (by cases setting <;> rfl) differs
  defaults := rfl
  fallback := rfl
  now := rfl
  localOffset := rfl

theorem changes_access (allowed : Allowed mayBind maySet access) (context : Context) :
    Changes mayBind maySet context (access.apply context) := by
  cases access with
  | lookup name => exact changes_refl context
  | unwritable format => exact changes_refl context
  | store name value => exact changes_set name value allowed context
  | configure errorMessage missingMessage sizeFormat timeFormat =>
    exact {
      kept := fun _ => id
      bound := fun _ differs => absurd rfl differs
      set := fun setting differs => allowed setting <| Classical.byContradiction fun free =>
        differs (Setting.kept_of_not_given free context)
      defaults := rfl
      fallback := rfl
      now := rfl
      localOffset := rfl }

theorem changes_replay (allowed : ∀ access ∈ accesses, Allowed mayBind maySet access)
    (context : Context) : Changes mayBind maySet context (replay context accesses) := by
  induction accesses generalizing context with
  | nil => exact changes_refl context
  | cons access rest ih =>
    obtain ⟨first, later⟩ := List.forall_mem_cons.1 allowed
    exact changes_trans (changes_access first context) (ih later _)

end

/-- Any names and any settings at all. -/
theorem allowed_any (access : Access) : Allowed (fun _ => True) (fun _ => True) access := by
  cases access with
  | configure => exact fun _ _ => trivial
  | _ => trivial

theorem bound_of_replay (accesses : List Access) {context : Context}
    (held : (context.bindings.get? name).isSome) :
    ((replay context accesses).bindings.get? name).isSome :=
  (changes_replay (fun access _ => allowed_any access) context).kept name held

/-- What has been stored is bound from then on. -/
theorem bound_of_store (stored : .store name value ∈ accesses) (context : Context) :
    ((replay context accesses).bindings.get? name).isSome := by
  induction accesses generalizing context with
  | nil => cases stored
  | cons access rest ih =>
    rcases List.mem_cons.1 stored with rfl | later
    · apply bound_of_replay rest
      simp only [Access.apply, Context.set, Variables.get?_set_self, Option.isSome_some]
    · exact ih later _

def dateNames : List String := ["DATE_LOCAL", "date_local", "DATE_GMT", "date_gmt"]

theorem mem_date_names (context : Context) : name ∈ dateNames ↔ (context.zone? name).isSome := by
  unfold Context.zone? dateNames
  split
  · next isLocal => rcases isLocal with rfl | rfl <;> simp
  · next notLocal =>
    split
    · next isGreenwich => rcases isGreenwich with rfl | rfl <;> simp
    · next notGreenwich =>
      rw [not_or] at notLocal notGreenwich
      simp [notLocal, notGreenwich]

theorem not_date_of_none {context : Context} (missing : context.date? name = none) :
    name ∉ dateNames := by
  intro date
  obtain ⟨zone, shown⟩ := Option.isSome_iff_exists.1 ((mem_date_names context).1 date)
  rw [Context.date?, shown] at missing
  cases missing

/-- A name that is looked up is no date, has had no value at the start, and got none since. -/
theorem unknown_of_due (due : AllDue context (earlier ++ .lookup name :: later)) :
    name ∉ dateNames ∧ context.bindings.get? name = none ∧
      ∀ value, .store name value ∉ earlier := by
  -- a value from the start or from a store would still be there when the name is looked up
  obtain ⟨missing, notDate⟩ := (all_due_append.1 due).2.1
  have unbound : ¬((replay context earlier).bindings.get? name).isSome := by
    rw [missing]
    exact Bool.false_ne_true
  refine ⟨not_date_of_none notDate, ?_, fun value stored => unbound (bound_of_store stored context)⟩
  by_contra held
  exact unbound (bound_of_replay earlier (Option.isSome_iff_ne_none.2 held))

/-! ## Accesses of calls -/

def nodesOf : Call → List Node
  | .render nodes => nodes
  | .settle _ => []

/-- The nodes that calls can come to: those to be rendered, and those of blocks from before. -/
def atHand (evaluator : Evaluator) (calls : List Call) : List Node :=
  evaluator.state.blocks.flatMap (·.body) ++ calls.flatMap nodesOf

variable (resolver : Resolver)

def ofCall (evaluator : Evaluator) : Call → List Access
  | .render nodes =>
    ofPlan resolver (ofTree nodes (block_names_known evaluator nodes))
      (evaluator.widen (Node.listBlockNames nodes)).state
  | .settle condition => ofCondition condition evaluator.context

/-- The accesses of all calls, in order. -/
def ofCalls (evaluator : Evaluator) : List Call → List Access
  | [] => []
  | call :: later =>
    ofCall resolver evaluator call ++ ofCalls (serve resolver evaluator call).2 later

/-- Between two evaluators there are the accesses of some calls. -/
def Between (before : Evaluator) (accesses : List Access) (after : Evaluator) : Prop :=
  ∃ asked, Leads before.context accesses after.context asked ∧
    after.log.lookups = before.log.lookups ++ asked

theorem between_serve (evaluator : Evaluator) (call : Call) :
    Between evaluator (ofCall resolver evaluator call) (serve resolver evaluator call).2 := by
  cases call with
  | render nodes =>
    have within := block_names_known evaluator nodes
    let ready := (evaluator.widen (Node.listBlockNames nodes)).state
    refine ⟨(Run.renderAll resolver (Run.expand resolver []) nodes within ready).log.lookups, ?_, rfl⟩
    have accounts : Accounts ready (ofPlan resolver (ofTree nodes within) ready)
        ((ofTree nodes within).run resolver ready) := accounts_run _ _
    rw [run_of_tree] at accounts
    exact accounts
  | settle condition => exact ⟨_, (tracks_condition condition).1 evaluator.context, rfl⟩

theorem between_serve_all (evaluator : Evaluator) (calls : List Call) :
    Between evaluator (ofCalls resolver evaluator calls)
      (serveAll resolver evaluator calls).2 := by
  induction calls generalizing evaluator with
  | nil => exact ⟨[], leads_nil _, (List.append_nil _).symm⟩
  | cons call later ih =>
    obtain ⟨asked, leads, logged⟩ := between_serve resolver evaluator call
    obtain ⟨asked', leads', logged'⟩ := ih (serve resolver evaluator call).2
    refine ⟨asked ++ asked', leads_append leads leads', ?_⟩
    rw [← List.append_assoc, ← logged]
    exact logged'

/-- Who makes an access: a node of a tree, or a condition that is settled. -/
def Made (tree : List Node) (calls : List Call) (access : Access) : Prop :=
  (∃ node, Has tree node ∧ ByNode node access) ∨
    ∃ condition, .settle condition ∈ calls ∧ ByCondition condition access

section

variable {resolver : Resolver} {tree : List Node}

theorem known_widen {state : EvalState names} (known : Known tree state) (within : names ⊆ wider) :
    Known tree (state.widen within) := by
  intro block member
  obtain ⟨held, before, rfl⟩ := List.mem_map.1 member
  exact known held before

theorem stays_of_held (nodes : List Node) (within : Node.listBlockNames nodes ⊆ names)
    (held : ∀ node ∈ nodes, Has tree node) : Stays tree (ofTree nodes within) fun _ => True :=
  stays_all (stays_expand []) nodes within held

/-- Serving a call defines no blocks but those of the nodes at hand. -/
theorem known_serve (known : Known tree evaluator.state) (call : Call)
    (held : ∀ node ∈ nodesOf call, Has tree node) :
    Known tree (serve resolver evaluator call).2.state := by
  cases call with
  | render nodes =>
    have within := block_names_known evaluator nodes
    let ready := (evaluator.widen (Node.listBlockNames nodes)).state
    have still : Known tree ((ofTree nodes within).run resolver ready).state :=
      known_of_stays (stays_of_held nodes within held)
        (known_widen known (List.subset_append_left _ _))
    rw [run_of_tree] at still
    exact still
  | settle condition => exact known

theorem made_of_call (known : Known tree evaluator.state) (call : Call)
    (held : ∀ node ∈ nodesOf call, Has tree node) :
    ∀ access ∈ ofCall resolver evaluator call, Made tree [call] access := by
  intro access member
  cases call with
  | render nodes =>
    exact .inl (made_of_stays (stays_of_held nodes _ held)
      (known_widen known (List.subset_append_left _ _)) access member)
  | settle condition =>
    exact .inr ⟨condition, List.mem_cons_self,
      made_of_condition condition evaluator.context access member⟩

theorem made_mono (more : calls ⊆ calls') (made : Made tree calls access) :
    Made tree calls' access :=
  made.imp_right fun ⟨condition, called, own⟩ => ⟨condition, more called, own⟩

theorem made_of_calls (known : Known tree evaluator.state) (calls : List Call)
    (held : ∀ call ∈ calls, ∀ node ∈ nodesOf call, Has tree node) :
    ∀ access ∈ ofCalls resolver evaluator calls, Made tree calls access := by
  induction calls generalizing evaluator with
  | nil => exact nofun
  | cons call later ih =>
    obtain ⟨first, others⟩ := List.forall_mem_cons.1 held
    refine List.forall_mem_append.2 ⟨?_, ?_⟩
    · intro access member
      exact made_mono (by simp) (made_of_call known call first access member)
    · intro access member
      have still : Known tree (serve resolver evaluator call).2.state := known_serve known call first
      exact made_mono (List.subset_cons_self _ _) (ih still others access member)

theorem made_at_hand (evaluator : Evaluator) (calls : List Call) :
    ∀ access ∈ ofCalls resolver evaluator calls, Made (atHand evaluator calls) calls access := by
  apply made_of_calls
  · intro block defined node member
    exact has_of_mem (List.mem_append_left _ (List.mem_flatMap.2 ⟨block, defined, member⟩))
  · intro call called node member
    exact has_of_mem (List.mem_append_right _ (List.mem_flatMap.2 ⟨call, called, member⟩))

end

/-! ## What calls change -/

/-- The names that may get a value: those under which a node stores, and those that a condition may
capture, whether it is tried by a node or settled by a call. -/
inductive MayStore (tree : List Node) (calls : List Call) : String → Prop where
  | stored (held : Has tree node) (stores : Stores node name) : MayStore tree calls name
  | tried (held : Has tree node) (own : condition ∈ conditions node)
    (captures : MayCapture name condition) : MayStore tree calls name
  | settled (called : .settle condition ∈ calls) (captures : MayCapture name condition) :
    MayStore tree calls name

/-- A directive of a tree gives a setting. -/
def MaySet (tree : List Node) (setting : Setting) : Prop :=
  ∃ span errorMessage missingMessage sizeFormat timeFormat,
    Has tree (.leaf span (.configure errorMessage missingMessage sizeFormat timeFormat)) ∧
      setting.Given errorMessage missingMessage sizeFormat timeFormat

theorem may_set_of_configures (held : Has tree node)
    (own : Configures node errorMessage missingMessage sizeFormat timeFormat) {setting : Setting}
    (given : setting.Given errorMessage missingMessage sizeFormat timeFormat) :
    MaySet tree setting := by
  obtain ⟨errors, missing⟩ := own
  refine ⟨_, _, _, _, _, held, ?_⟩
  cases setting with
  | errorMessage => exact errors.symm.trans given
  | missingMessage => exact missing.symm.trans given
  | _ => exact given

theorem allowed_of_made (made : Made tree calls access) :
    Allowed (MayStore tree calls) (MaySet tree) access := by
  rcases made with ⟨node, held, own⟩ | ⟨condition, called, own⟩
  · cases access with
    | lookup name => trivial
    | unwritable format => trivial
    | store name value =>
      rcases own with stores | ⟨condition, tried, captures⟩
      · exact .stored held stores
      · exact .tried held tried captures
    | configure => exact fun setting given => may_set_of_configures held own given
  · cases access with
    | lookup name => trivial
    | unwritable format => trivial
    | store name value => exact .settled called own
    | configure => exact own.elim

/-- Settling a condition changes bindings, and nothing else in a context. -/
theorem replay_of_condition (made : ∀ access ∈ accesses, ByCondition condition access)
    (context : Context) : ∃ bindings, replay context accesses = { context with bindings } := by
  induction accesses generalizing context with
  | nil => exact ⟨context.bindings, rfl⟩
  | cons access rest ih =>
    obtain ⟨first, later⟩ := List.forall_mem_cons.1 made
    cases access with
    | lookup name => exact ih later context
    | unwritable format => exact ih later context
    | store name value => exact ih later (context.set name value)
    | configure => exact first.elim

theorem truth_binds (evaluator : Evaluator) (condition : Condition) :
    ∃ bindings asked, (evaluator.truth condition).2 = { evaluator with
      state := { evaluator.state with context := { evaluator.context with bindings } }
      log := { evaluator.log with lookups := evaluator.log.lookups ++ asked } } := by
  have leads := (tracks_condition condition).1 evaluator.context
  obtain ⟨bindings, left⟩ :=
    replay_of_condition (made_of_condition condition evaluator.context) evaluator.context
  refine ⟨bindings, (condition.truth evaluator.context).lookups, ?_⟩
  simp only [← left, leads.after, Evaluator.truth, Condition.truth, Log.append_def, Log.append,
    Log.empty, List.append_nil]

/-- Whatever an evaluator is called for, also if a call fails: no variable is lost; a value differs
only if a node at hand stores it, or a condition of such a node or of a call may capture it; a setting
differs only if a node at hand gives it, so the encoding never does; the rest of the context stays.
To settle a condition changes variables alone, and asks the resolver nothing. What is looked up with
the fallback source is no date, was not bound at the start and has not been stored before. -/
theorem serve_all_changes (evaluator : Evaluator) (calls : List Call) :
    let tree := atHand evaluator calls
    let accesses := ofCalls resolver evaluator calls
    let after := (serveAll resolver evaluator calls).2
    Changes (MayStore tree calls) (MaySet tree) evaluator.context after.context ∧
    after.context.settings.encoding = evaluator.context.settings.encoding ∧
    (∀ condition, ∃ bindings asked, (after.truth condition).2 = { after with
      state := { after.state with context := { after.context with bindings } }
      log := { after.log with lookups := after.log.lookups ++ asked } }) ∧
    replay evaluator.context accesses = after.context ∧
    after.log.lookups = evaluator.log.lookups ++ lookups accesses ∧
    ∀ earlier name later, accesses = earlier ++ .lookup name :: later →
      name ∉ dateNames ∧ evaluator.context.bindings.get? name = none ∧
        ∀ value, .store name value ∉ earlier := by
  intro tree accesses after
  obtain ⟨asked, leads, logged⟩ := between_serve_all resolver evaluator calls
  have changes : Changes (MayStore tree calls) (MaySet tree) evaluator.context after.context := by
    rw [← leads.after]
    exact changes_replay
      (fun access member => allowed_of_made (made_at_hand evaluator calls access member)) _
  refine ⟨changes, ?_, truth_binds after, leads.after, leads.asked ▸ logged, ?_⟩
  · by_contra differs
    obtain ⟨_, _, _, _, _, _, given⟩ := changes.set .encoding differs
    exact given
  · intro earlier name later split
    have due : AllDue evaluator.context accesses := leads.due
    exact unknown_of_due (split ▸ due)

end ServerIncludes.Effects
