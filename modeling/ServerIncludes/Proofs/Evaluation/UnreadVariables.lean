import ServerIncludes.Proofs.Evaluation.Likeness
import ServerIncludes.Proofs.Evaluation.Termination

/-! A variable that no node of a tree reads has no part in its evaluation, whether it is bound or not,
and to what. The tree may set it; and its name may stand in the values of others, for what is filled
in for a marker is not read for markers again. -/
namespace ServerIncludes.UnreadVariables

open Failures Likenesses Plans Questions

/-- Contexts that are the same but for one variable, which may have different values in them, or a
value in one of them only. -/
structure AgreeBut (name : String) (first second : Context) : Prop where
  bindings : ∀ other, other ≠ name → first.bindings.get? other = second.bindings.get? other
  defaults : first.defaults = second.defaults
  settings : first.settings = second.settings
  fallback : first.fallback = second.fallback
  now : first.now = second.now
  localOffset : first.localOffset = second.localOffset

/-- No node of a tree reads a variable, be it by its name or with all others. -/
structure Unread (name : String) (tree : List Node) : Prop where
  named : ∀ node, Has tree node → name ∉ reads node
  listed : ∀ span, ¬Has tree (.leaf span .listVariables)

theorem agree_set (agree : AgreeBut name first second) (written value : String) :
    AgreeBut name (first.set written value) (second.set written value) where
  bindings := by
    intro other different
    by_cases same : other = written
    · simp only [Context.set, same, Variables.get?_set_self]
    · simp only [Context.set, Variables.get?_set_of_ne same, agree.bindings other different]
  defaults := agree.defaults
  settings := agree.settings
  fallback := agree.fallback
  now := agree.now
  localOffset := agree.localOffset

theorem agree_configure (agree : AgreeBut name first second)
    (errorMessage missingMessage : Option String) (sizeFormat : Option SizeFormat)
    (timeFormat : Option String) :
    AgreeBut name (changeSettings errorMessage missingMessage sizeFormat timeFormat first)
      (changeSettings errorMessage missingMessage sizeFormat timeFormat second) where
  bindings := agree.bindings
  defaults := agree.defaults
  settings := by simp only [changeSettings, agree.settings]
  fallback := agree.fallback
  now := agree.now
  localOffset := agree.localOffset

theorem agree_reset (agree : AgreeBut name first second) :
    AgreeBut name first.resetSettings second.resetSettings where
  bindings := agree.bindings
  defaults := agree.defaults
  settings := agree.defaults
  fallback := agree.fallback
  now := agree.now
  localOffset := agree.localOffset

/-- Everything is the same, but for the value of one variable. -/
def variableAside (name : String) (tree : List Node) : Likeness where
  contexts := AgreeBut name
  outputs := Eq
  bodies body body' := body = body' ∧ ∀ node ∈ body, Has tree node
  sites := Eq
  settings_eq := AgreeBut.settings
  set_alike := agree_set
  configure_alike := agree_configure
  output_refl _ := rfl
  output_append := congrArg₂ (· ++ ·)

/-- All other names stand for the same. -/
theorem common_of_ne {tree : List Node} (different : other ≠ name) :
    Common (variableAside name tree) other := by
  intro first second agree
  have bound : first.bindings.get? other = second.bindings.get? other :=
    agree.bindings other different
  have zone : first.zone? other = second.zone? other := by
    simp only [Context.zone?, agree.now, agree.localOffset]
  have timed : ∀ shown, first.timed shown first.now = second.timed shown second.now := by
    simp only [Context.timed, agree.settings, agree.now, implies_true]
  constructor
  · simp only [Context.get?, Context.date?, bound, zone, timed, agree.fallback]
  · simp only [Context.asked, bound, zone, timed, agree.fallback]

theorem alike_resolvers (resolver : Resolver) :
    AlikeResolvers (variableAside name tree) resolver resolver where
  facts _ _ := rfl
  content earlier target := by
    cases resolver.content earlier target with
    | ok bytes => exact .ok ⟨rfl, rfl⟩
    | error error => exact .error error

theorem fits_tree (unread : Unread name tree) : FitsTree (variableAside name tree) tree where
  here _ := rfl
  own _ held := ⟨rfl, held⟩
  known := id
  fair node held := by
    constructor
    · intro other read
      apply common_of_ne
      rintro rfl
      exact unread.named node held read
    · rintro span rfl
      exact absurd held (unread.listed span)
    · rintro span target onError stored stub rfl bytes bytes' same
      exact same

/-- In two contexts that are the same but for a variable which a tree does not read, the tree gives
the same output, the same faults, the same calls of the resolver and the same look-ups, or the same
fatal answer. The contexts that are left, also by an evaluation that a fatal answer ends, are the same
again but for that variable. -/
theorem evaluate_unread (agree : AgreeBut name first second) (unread : Unread name nodes)
    (resolver : Resolver) :
    (evaluate resolver first nodes).2 = (evaluate resolver second nodes).2 ∧
    (evaluate resolver first nodes).1.map (fun report => (report.output, report.faults)) =
      (evaluate resolver second nodes).1.map (fun report => (report.output, report.faults)) ∧
    (∀ report report', (evaluate resolver first nodes).1 = .ok report →
      (evaluate resolver second nodes).1 = .ok report' →
        AgreeBut name report.context report'.context) ∧
    AgreeBut name ((Evaluator.ofContext first.resetSettings).render resolver nodes).2.context
      ((Evaluator.ofContext second.resetSettings).render resolver nodes).2.context := by
  obtain ⟨result, state, log⟩ := alike_outcomes (alike_resolvers resolver) (fits_tree unread)
    (show (variableAside name nodes).contexts first.resetSettings second.resetSettings from
      agree_reset agree)
  have logs : (outcomeOf resolver first nodes).log = (outcomeOf resolver second nodes).log :=
    log_eq id id log
  have contexts : AgreeBut name (outcomeOf resolver first nodes).state.context
      (outcomeOf resolver second nodes).state.context := state.contexts
  refine ⟨?_, ?_, ?_, ?_⟩
  · rw [evaluate_eq, evaluate_eq]
    exact logs
  · rw [evaluate_eq, evaluate_eq]
    rw [result_eq id result, logs]
    cases (outcomeOf resolver second nodes).result with
    | error abort => rfl
    | ok value => rfl
  · intro report report' ended ended'
    rw [report_of_evaluate ended, report_of_evaluate ended']
    exact contexts
  · rw [context_of_render, context_of_render]
    exact contexts

/-- The name of a variable in the value of another one is not read. -/
theorem evaluate_name_in_value :
    let second := (Context.ofSettings .standard).set "y" "$x"
    let first := second.set "x" "1"
    let nodes := [.conditional ⟨0, 60⟩ (.reference "y")
        [.leaf ⟨20, 40⟩ (.assign "z" ⟨[.marker "y"]⟩)] .done,
      .leaf ⟨60, 80⟩ (.echo "z" none none)]
    let resolver := FileStore.empty.resolver
    AgreeBut "x" first second ∧ Unread "x" nodes ∧
      (evaluate resolver first nodes).2.output = Bytes.ofText "$x" ∧
      (evaluate resolver first nodes).2 = (evaluate resolver second nodes).2 := by
  intro second first nodes resolver
  have agree : AgreeBut "x" first second :=
    ⟨fun other different => Variables.get?_set_of_ne different _ _, rfl, rfl, rfl, rfl, rfl⟩
  have unread : Unread "x" nodes := by
    constructor
    · simp [nodes, has_cons, has_nil, parts, Accounting.items, Accounting.leafItem,
        Accounting.branchItems, reads, conditions, conditionReads, leafReads, Template.markers,
        Branches.elifs]
    · simp [nodes, has_cons, has_nil, parts, Accounting.items, Accounting.leafItem,
        Accounting.branchItems]
  have output : (evaluate resolver first nodes).2.output = Bytes.ofText "$x" := by
    show (Evaluator.render resolver (Evaluator.ofContext first.resetSettings) nodes).2.log.output = _
    rw [← Termination.render_within_eq_render resolver (fun _ _ _ => pure none) _ _ (Nat.le_refl 0)]
    decide +kernel
  exact ⟨agree, unread, output, (evaluate_unread agree unread resolver).1⟩

end ServerIncludes.UnreadVariables
