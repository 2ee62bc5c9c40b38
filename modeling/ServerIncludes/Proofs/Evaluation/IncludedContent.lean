import ServerIncludes.Proofs.Evaluation.Likeness
import ServerIncludes.Proofs.Evaluation.Termination

/-! Content that a resolver gives is written as it is and never read. If a tree stores no content, then
whatever stands in it makes no difference to an evaluation, except to its output; no more of it plays a
part than whether it is empty, which decides for or against a stub. -/
namespace ServerIncludes.IncludedContent

open Failures Likenesses Plans Questions

/-- Resolvers that differ in nothing but the contents they give, and not in which of these are
empty. -/
structure SameBesides (first second : Resolver) : Prop where
  facts : ∀ earlier target, first.facts earlier target = second.facts earlier target
  content : ∀ earlier target,
    (first.content earlier target).map List.isEmpty = (second.content earlier target).map List.isEmpty

/-- No content of an inclusion is stored. -/
def StoresNone (tree : List Node) : Prop :=
  ∀ span target onError store stub,
    Has tree (.leaf span (.inclusion target onError store stub)) → store = none

/-- A report without its output. -/
def withoutOutput (report : Report) : Report := { report with output := [] }

/-- Everything is the same, but outputs may be anything. -/
def outputAside (tree : List Node) : Likeness where
  contexts := Eq
  outputs _ _ := True
  bodies body body' := body = body' ∧ ∀ node ∈ body, Has tree node
  sites := Eq
  settings_eq := congrArg Context.settings
  set_alike same name value := congrArg (Context.set · name value) same
  configure_alike same _ _ _ _ := congrArg (changeSettings _ _ _ _) same
  output_refl _ := trivial
  output_append _ _ := trivial

theorem alike_resolvers (same : SameBesides first second) :
    AlikeResolvers (outputAside tree) first second where
  facts := same.facts
  content := by
    intro earlier target
    have both := same.content earlier target
    generalize first.content earlier target = given at both
    generalize second.content earlier target = given' at both
    cases given with
    | ok bytes =>
      cases given' with
      | ok bytes' => exact .ok ⟨trivial, Except.ok.inj both⟩
      | error error => cases both
    | error error =>
      cases given' with
      | ok bytes' => cases both
      | error error' =>
        cases both
        exact .error error

theorem fits_tree (stores : StoresNone tree) : FitsTree (outputAside tree) tree where
  here _ := rfl
  own _ held := ⟨rfl, held⟩
  known := id
  fair node held := by
    constructor
    · rintro name - context _ rfl
      exact ⟨rfl, rfl⟩
    · rintro span - context _ rfl
      rfl
    · rintro span target onError name stub rfl
      cases stores _ _ _ _ _ held

/-- If no content is stored, resolvers that give other contents, empty ones for the same targets, get
the same questions in the same order; the fallback source is asked for the same names, the same faults
are recorded, the same fatal answer ends both evaluations or none does, and the contexts they leave
are the same. -/
theorem evaluate_content_unread (same : SameBesides first second) (stores : StoresNone nodes)
    (context : Context) :
    (evaluate first context nodes).2.silent = (evaluate second context nodes).2.silent ∧
    (evaluate first context nodes).1.map withoutOutput =
      (evaluate second context nodes).1.map withoutOutput ∧
    ((Evaluator.ofContext context.resetSettings).render first nodes).2.context =
      ((Evaluator.ofContext context.resetSettings).render second nodes).2.context := by
  obtain ⟨result, state, log⟩ := alike_outcomes (alike_resolvers same) (fits_tree stores)
    (show (outputAside nodes).contexts context.resetSettings context.resetSettings from rfl)
  have faults := faults_eq id log
  have contexts : (outcomeOf first context nodes).state.context =
      (outcomeOf second context nodes).state.context := state.contexts
  rw [evaluate_eq, evaluate_eq, context_of_render, context_of_render]
  refine ⟨?_, ?_, contexts⟩
  · simp only [Log.silent, faults, log.calls, log.lookups]
  · rw [result_eq id result, faults, contexts]
    cases (outcomeOf second context nodes).result with
    | error abort => rfl
    | ok value => rfl

/-- A tag in a document that is included is written as it is. -/
theorem evaluate_tag_unread :
    let tag := Bytes.ofText "<!--#printenv -->"
    let known : Target String → Except ResolveError Metadata := fun _ => .ok ⟨⟨0, 0⟩, 1⟩
    let first := Resolver.steady (fun _ => .ok [120]) known
    let second := Resolver.steady (fun _ => .ok tag) known
    let nodes := [.block ⟨0, 60⟩ "b"
        [.leaf ⟨20, 40⟩ (.inclusion (.virtual ⟨[.text "part"]⟩) none none (some "b"))],
      .leaf ⟨60, 80⟩ (.echo "b" none none)]
    let context := Context.ofSettings .standard
    SameBesides first second ∧ StoresNone nodes ∧
      (evaluate first context nodes).2.output = [120] ∧
      (evaluate second context nodes).2.output = tag ∧
      (evaluate first context nodes).2.silent = (evaluate second context nodes).2.silent := by
  intro tag known first second nodes context
  have filled : [120].isEmpty = tag.isEmpty := by decide
  have same : SameBesides first second := ⟨fun _ _ => rfl, fun _ _ => congrArg Except.ok filled⟩
  have stores : StoresNone nodes := by
    intro span target onError store stub held
    -- the only inclusion stands in the block
    have only : span = ⟨20, 40⟩ ∧ Leaf.inclusion target onError store stub =
        .inclusion (.virtual ⟨[.text "part"]⟩) none none (some "b") := by
      simpa [nodes, has_cons, has_nil, parts, Accounting.items, Accounting.leafItem] using held
    cases only.2
    rfl
  have within (resolver : Resolver) : (evaluate resolver context nodes).2 =
      (Termination.renderWithin resolver (fun _ _ _ => pure none) 1
        (Evaluator.ofContext context.resetSettings) nodes).2.log := by
    rw [Termination.render_within_eq_render _ _ _ _ (by decide)]
    rfl
  have outputs : (evaluate first context nodes).2.output = [120] ∧
      (evaluate second context nodes).2.output = tag := by
    simp only [within]
    decide +kernel
  exact ⟨same, stores, outputs.1, outputs.2, (evaluate_content_unread same stores context).1⟩

end ServerIncludes.IncludedContent
