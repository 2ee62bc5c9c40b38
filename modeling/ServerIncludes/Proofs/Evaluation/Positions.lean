import ServerIncludes.Proofs.Document.Writing
import ServerIncludes.Proofs.Evaluation.Rearrangement
import ServerIncludes.Proofs.Evaluation.Termination

/-! Where nodes stand in a document plays no part in their evaluation, except that it is what faults and
fatal answers are reported with. Trees that differ in nothing else are evaluated alike, and what is
reported in one evaluation at a node is reported in the other one at the node of the same position. -/
namespace ServerIncludes.Positions

open Accounting (Item branchItems items)
open DocumentWriting (eraseBranches eraseNode eraseSpans)
open Failures Likenesses Plans Questions Rearrangement

/-- Nodes of two trees that have the same position: the same number among the nodes at the top or,
further down, among the nodes that nodes of the same position are made of. -/
inductive SamePosition (first second : List Node) : Node → Node → Prop where
  | top {index : Nat} (here : first[index]? = some node) (there : second[index]? = some node') :
    SamePosition first second node node'
  | part {index : Nat} (wholes : SamePosition first second whole whole')
      (here : (parts whole)[index]? = some node) (there : (parts whole')[index]? = some node') :
    SamePosition first second node node'

/-- Sites of one directive, at nodes of the same position. -/
def Moved (first second : List Node) (site site' : Site) : Prop :=
  ∃ node node', SamePosition first second node node' ∧ site = siteOf node ∧ site' = siteOf node' ∧
    site.directive = site'.directive

/-! ## Trees that differ in their places -/

/-- The nodes of some branches. -/
def branchParts : Branches → List Node
  | .done => []
  | .otherwise body => body
  | .elif _ body rest => body ++ branchParts rest

section

variable {read : Item → Option Node} (tag : ∀ directive, read (.tag directive) = none)
  (node : ∀ node, read (.node node) = some node)

include node

theorem filterMap_nodes (nodes : List Node) : (nodes.map Item.node).filterMap read = nodes := by
  induction nodes with
  | nil => rfl
  | cons first rest ih => rw [List.map_cons, List.filterMap_cons_some (node first), ih]

include tag

theorem filterMap_branch_items (rest : Branches) :
    (branchItems rest).filterMap read = branchParts rest := by
  fun_induction branchParts rest with
  | case1 => rw [branchItems, List.filterMap_nil]
  | case2 body => rw [branchItems, List.filterMap_cons_none (tag _), filterMap_nodes node]
  | case3 condition body rest ih =>
    rw [branchItems, List.filterMap_cons_none (tag _), List.filterMap_append, filterMap_nodes node, ih]

end

theorem parts_conditional (span : Span) (condition : Condition) (body : List Node)
    (rest : Branches) : parts (.conditional span condition body rest) = body ++ branchParts rest := by
  unfold parts
  rw [items, List.filterMap_cons_none rfl, List.filterMap_append, List.filterMap_append,
    filterMap_nodes fun _ => rfl, filterMap_branch_items (fun _ => rfl) fun _ => rfl,
    List.filterMap_cons_none rfl, List.filterMap_nil, List.append_nil]

theorem parts_block (span : Span) (name : String) (body : List Node) :
    parts (.block span name body) = body := by
  unfold parts
  rw [items, List.filterMap_cons_none rfl, List.filterMap_append, filterMap_nodes fun _ => rfl,
    List.filterMap_cons_none rfl, List.filterMap_nil, List.append_nil]

theorem length_of_erased {nodes nodes' : List Node} (same : eraseSpans nodes = eraseSpans nodes') :
    nodes.length = nodes'.length := by
  induction nodes generalizing nodes' with
  | nil =>
    cases nodes' with
    | nil => rfl
    | cons node' rest' => simp [eraseSpans] at same
  | cons node rest ih =>
    cases nodes' with
    | nil => simp [eraseSpans] at same
    | cons node' rest' =>
      simp only [eraseSpans, List.cons.injEq] at same
      rw [List.length_cons, List.length_cons, ih same.2]

theorem length_of_erased_branches :
    (rest rest' : Branches) → eraseBranches rest = eraseBranches rest' →
      (branchParts rest).length = (branchParts rest').length
  | .done, .done, _ => rfl
  | .otherwise body, .otherwise body', same => by
    simp only [eraseBranches, Branches.otherwise.injEq] at same
    exact length_of_erased same
  | .elif _ body rest, .elif _ body' rest', same => by
    simp only [eraseBranches, Branches.elif.injEq] at same
    simp only [branchParts, List.length_append, length_of_erased same.2.1,
      length_of_erased_branches rest rest' same.2.2]
  | .done, .otherwise _, same => by simp [eraseBranches] at same
  | .done, .elif _ _ _, same => by simp [eraseBranches] at same
  | .otherwise _, .done, same => by simp [eraseBranches] at same
  | .otherwise _, .elif _ _ _, same => by simp [eraseBranches] at same
  | .elif _ _ _, .done, same => by simp [eraseBranches] at same
  | .elif _ _ _, .otherwise _, same => by simp [eraseBranches] at same

section

variable {first second : List Node}

theorem same_position_of_parts (wholes : SamePosition first second whole whole')
    (many : (parts whole).length = (parts whole').length) :
    List.Forall₂ (SamePosition first second) (parts whole) (parts whole') := by
  refine List.forall₂_iff_get.2 ⟨many, fun index here there => ?_⟩
  exact .part wholes (List.getElem?_eq_getElem here) (List.getElem?_eq_getElem there)

theorem forall₂_split {related : α → β → Prop} {front rest : List α} {front' rest' : List β}
    (all : List.Forall₂ related (front ++ rest) (front' ++ rest'))
    (many : front.length = front'.length) :
    List.Forall₂ related front front' ∧ List.Forall₂ related rest rest' := by
  have before := List.forall₂_take_append _ _ _ all
  have after := List.forall₂_drop_append _ _ _ all
  rw [← many, List.take_left] at before
  rw [← many, List.drop_left] at after
  exact ⟨before, after⟩

mutual

/-- Trees that differ only in their places mirror each other, position by position. -/
theorem mirrors_of_erased : (nodes nodes' : List Node) → eraseSpans nodes = eraseSpans nodes' →
    List.Forall₂ (SamePosition first second) nodes nodes' →
    Mirrors (SamePosition first second) nodes nodes'
  | [], _, _, positions => by
    cases positions
    exact .nil
  | node :: rest, _, same, positions => by
    cases positions with
    | cons here later =>
      simp only [eraseSpans, List.cons.injEq] at same
      exact .cons (mirrors_node_of_erased node _ same.1 here) (mirrors_of_erased rest _ same.2 later)

theorem mirrors_node_of_erased : (node node' : Node) → eraseNode node = eraseNode node' →
    SamePosition first second node node' → MirrorsNode (SamePosition first second) node node'
  | .leaf span content, node', same, position => by
    cases node' with
    | leaf span' content' =>
      simp only [eraseNode, Node.leaf.injEq, true_and] at same
      subst same
      exact .leaf position
    | _ => simp [eraseNode] at same
  | .conditional span condition body rest, node', same, position => by
    cases node' with
    | conditional span' condition' body' rest' =>
      simp only [eraseNode, Node.conditional.injEq, true_and] at same
      obtain ⟨rfl, sameBody, sameRest⟩ := same
      have ofBody := length_of_erased sameBody
      have inside := same_position_of_parts position (by
        simp only [parts_conditional, List.length_append, ofBody,
          length_of_erased_branches rest rest' sameRest])
      simp only [parts_conditional] at inside
      obtain ⟨inBody, inRest⟩ := forall₂_split inside ofBody
      exact .conditional (mirrors_of_erased body body' sameBody inBody)
        (mirrors_branches_of_erased rest rest' sameRest inRest)
    | _ => simp [eraseNode] at same
  | .block span name body, node', same, position => by
    cases node' with
    | block span' name' body' =>
      simp only [eraseNode, Node.block.injEq, true_and] at same
      obtain ⟨rfl, sameBody⟩ := same
      have inside := same_position_of_parts position (by
        simp only [parts_block, length_of_erased sameBody])
      simp only [parts_block] at inside
      exact .block (mirrors_of_erased body body' sameBody inside)
    | _ => simp [eraseNode] at same

theorem mirrors_branches_of_erased : (rest rest' : Branches) →
    eraseBranches rest = eraseBranches rest' →
    List.Forall₂ (SamePosition first second) (branchParts rest) (branchParts rest') →
    MirrorsBranches (SamePosition first second) rest rest'
  | .done, rest', same, _ => by
    cases rest' with
    | done => exact .done
    | _ => simp [eraseBranches] at same
  | .otherwise body, rest', same, positions => by
    cases rest' with
    | otherwise body' =>
      simp only [eraseBranches, Branches.otherwise.injEq] at same
      exact .otherwise (mirrors_of_erased body body' same positions)
    | _ => simp [eraseBranches] at same
  | .elif condition body rest, rest', same, positions => by
    cases rest' with
    | elif condition' body' rest' =>
      simp only [eraseBranches, Branches.elif.injEq] at same
      obtain ⟨rfl, sameBody, sameRest⟩ := same
      obtain ⟨inBody, inRest⟩ := forall₂_split positions (length_of_erased sameBody)
      exact .elif (mirrors_of_erased body body' sameBody inBody)
        (mirrors_branches_of_erased rest rest' sameRest inRest)
    | _ => simp [eraseBranches] at same

end

theorem mirrors_of_moved (same : eraseSpans first = eraseSpans second) :
    Mirrors (SamePosition first second) first second := by
  apply mirrors_of_erased first second same
  refine List.forall₂_iff_get.2 ⟨length_of_erased same, fun index here there => ?_⟩
  exact .top (List.getElem?_eq_getElem here) (List.getElem?_eq_getElem there)

theorem moved_of_paired (paired : PairedSites (SamePosition first second) site site') :
    Moved first second site site' := by
  cases paired with
  | leaf notText same => exact ⟨_, _, same, rfl, rfl, rfl⟩

end

/-- If two trees differ in nothing but where their nodes stand, their evaluations write the same, ask
the resolver and the fallback source the same, and leave the same context. Their faults are the same,
one by one, each reported at the nodes of one position; and both end well, or both with the same fatal
answer, reported in the same way. -/
theorem evaluate_moved (same : eraseSpans first = eraseSpans second) (resolver : Resolver)
    (context : Context) :
    let evaluated := evaluate resolver context first
    let evaluated' := evaluate resolver context second
    evaluated.2.output = evaluated'.2.output ∧ evaluated.2.calls = evaluated'.2.calls ∧
    evaluated.2.lookups = evaluated'.2.lookups ∧
    List.Forall₂ (fun fault fault' => fault.cause = fault'.cause ∧
      Moved first second fault.site fault'.site) evaluated.2.faults evaluated'.2.faults ∧
    ((∃ left, evaluated.1 = .ok ⟨evaluated.2.output, evaluated.2.faults, left⟩ ∧
        evaluated'.1 = .ok ⟨evaluated'.2.output, evaluated'.2.faults, left⟩) ∨
      ∃ abort abort', evaluated.1 = .error abort ∧ evaluated'.1 = .error abort' ∧
        abort.error = abort'.error ∧ Moved first second abort.site abort'.site) ∧
    ((Evaluator.ofContext context.resetSettings).render resolver first).2.context =
      ((Evaluator.ofContext context.resetSettings).render resolver second).2.context := by
  obtain ⟨result, state, log⟩ := alike_mirrored (mirrors_of_moved same) resolver context
  have contexts : (outcomeOf resolver context first).state.context =
      (outcomeOf resolver context second).state.context := state.contexts
  simp only [log_of_evaluate, context_of_render]
  refine ⟨log.output, log.calls, log.lookups, ?_, ?_, contexts⟩
  · exact log.faults.imp fun _ _ faults => ⟨faults.cause, moved_of_paired faults.site⟩
  · rw [evaluate_eq, evaluate_eq, contexts]
    generalize (outcomeOf resolver context first).result = ended at result
    generalize (outcomeOf resolver context second).result = ended' at result
    cases result with
    | ok fit => exact .inl ⟨_, rfl, rfl⟩
    | error site error => exact .inr ⟨_, _, rfl, rfl, error, moved_of_paired site⟩

/-- A fault inside a block is reported at the node in the block, wherever it and the block stand. -/
theorem evaluate_moved_block :
    let tree (block inside echo call : Span) : List Node :=
      [.block block "b" [.conditional inside (.reference "y") []
          (.otherwise [.leaf echo (.echo "x" none none)])],
        .leaf call (.echo "b" none none)]
    let first := tree ⟨0, 60⟩ ⟨20, 50⟩ ⟨30, 40⟩ ⟨60, 80⟩
    let second := tree ⟨5, 99⟩ ⟨6, 98⟩ ⟨45, 59⟩ ⟨99, 120⟩
    let resolver := FileStore.empty.resolver
    let context := Context.ofSettings .standard
    eraseSpans first = eraseSpans second ∧
      (evaluate resolver context first).2.faults = [⟨⟨30, "echo"⟩, .undefinedVariable "x"⟩] ∧
      (evaluate resolver context second).2.faults = [⟨⟨45, "echo"⟩, .undefinedVariable "x"⟩] ∧
      (evaluate resolver context first).2.output = (evaluate resolver context second).2.output := by
  intro tree first second resolver context
  have within (nodes : List Node) (names : (Node.listBlockNames nodes).dedup.length ≤ 1) :
      (evaluate resolver context nodes).2 = (Termination.renderWithin resolver
        (fun _ _ _ => pure none) 1 (Evaluator.ofContext context.resetSettings) nodes).2.log := by
    rw [Termination.render_within_eq_render _ _ _ _ names]
    rfl
  have erased : eraseSpans first = eraseSpans second := by decide +kernel
  refine ⟨erased, ?_, ?_, (evaluate_moved erased resolver context).1⟩
  · rw [within first (by decide)]
    decide +kernel
  · rw [within second (by decide)]
    decide +kernel

end ServerIncludes.Positions
