import ServerIncludes.Proofs.Evaluation.Likeness

/-! Trees that say the same in different ways. One mirrors the other if it has the same leaves and the
same conditions, each leaf paired with one in the other tree, but an `elif` branch may have become a
conditional of its own, which is all that the last branch then holds. Such trees are evaluated alike,
although their blocks have bodies that mirror each other and need not be the same. -/
namespace ServerIncludes.Rearrangement

open Accounting (Inside branchItems items)
open Failures Likenesses Plans Questions

mutual

/-- Two nodes of which one mirrors the other. Only leaves have to be paired, so that conditionals and
blocks may stand anywhere. -/
inductive MirrorsNode (paired : Node → Node → Prop) : Node → Node → Prop where
  | leaf (same : paired (.leaf span content) (.leaf span' content)) :
    MirrorsNode paired (.leaf span content) (.leaf span' content)
  | conditional (body : Mirrors paired first first') (branches : MirrorsBranches paired rest rest') :
    MirrorsNode paired (.conditional span condition first rest)
      (.conditional span' condition first' rest')
  | block (body : Mirrors paired held held') :
    MirrorsNode paired (.block span name held) (.block span' name held')

inductive MirrorsBranches (paired : Node → Node → Prop) : Branches → Branches → Prop where
  | done : MirrorsBranches paired .done .done
  | otherwise (body : Mirrors paired held held') :
    MirrorsBranches paired (.otherwise held) (.otherwise held')
  | elif (body : Mirrors paired held held') (later : MirrorsBranches paired rest rest') :
    MirrorsBranches paired (.elif condition held rest) (.elif condition held' rest')
  /-- The branch and all those after it are a conditional of their own. -/
  | nested (body : Mirrors paired held held') (later : MirrorsBranches paired rest rest') :
    MirrorsBranches paired (.elif condition held rest)
      (.otherwise [.conditional span condition held' rest'])

/-- Nodes that mirror others, one by one. -/
inductive Mirrors (paired : Node → Node → Prop) : List Node → List Node → Prop where
  | nil : Mirrors paired [] []
  | cons (first : MirrorsNode paired node node') (later : Mirrors paired rest rest') :
    Mirrors paired (node :: rest) (node' :: rest')

end

/-- The sites of directives that are paired. Text reports nothing. -/
inductive PairedSites (paired : Node → Node → Prop) : Site → Site → Prop where
  | leaf (notText : ∀ bytes, content ≠ .literal bytes)
      (same : paired (.leaf span content) (.leaf span' content)) :
    PairedSites paired (siteOf (.leaf span content)) (siteOf (.leaf span' content))

/-! ## Mirrored trees are evaluated alike -/

theorem settings_congr {context context' : Context} (same : context = context') :
    context.settings = context'.settings := congrArg Context.settings same

theorem set_congr {context context' : Context} (same : context = context') (name value : String) :
    context.set name value = context'.set name value := congrArg (Context.set · name value) same

theorem change_settings_congr {context context' : Context} (same : context = context')
    (errorMessage missingMessage : Option String) (sizeFormat : Option SizeFormat)
    (timeFormat : Option String) :
    changeSettings errorMessage missingMessage sizeFormat timeFormat context =
      changeSettings errorMessage missingMessage sizeFormat timeFormat context' :=
  congrArg (changeSettings _ _ _ _) same

theorem output_congr {first first' second second' : Bytes} (before : first = first')
    (after : second = second') : first ++ second = first' ++ second' :=
  congrArg₂ (· ++ ·) before after

/-- Contexts and outputs are the same; bodies of blocks are related, and so are sites. -/
def sameBesides (bodies : List Node → List Node → Prop) (sites : Site → Site → Prop) : Likeness where
  contexts := Eq
  outputs := Eq
  bodies := bodies
  sites := sites
  settings_eq := settings_congr
  set_alike := set_congr
  configure_alike := change_settings_congr
  output_refl := Eq.refl
  output_append := output_congr

section

variable {bodies : List Node → List Node → Prop} {sites : Site → Site → Prop}

/-- Every name stands for the same. -/
theorem common_of_same (name : String) : Common (sameBesides bodies sites) name := by
  rintro context _ rfl
  exact ⟨rfl, rfl⟩

theorem fair_of_same (node : Node) : Fair (sameBesides bodies sites) node where
  reads name _ := common_of_same name
  lists := by
    rintro span - context _ rfl
    rfl
  stores := by
    rintro span target onError name stub - bytes _ rfl
    rfl

/-- A condition chooses the same of two steps on either side. -/
theorem alike_choice (condition : Condition) {taken others : Run names Unit}
    {taken' others' : Run names' Unit} (first : Alike (sameBesides bodies sites) Eq taken taken')
    (second : Alike (sameBesides bodies sites) Eq others others') :
    Alike (sameBesides bodies sites) Eq
      (Run.ask condition.truth >>= fun holds => if holds then taken else others)
      (Run.ask condition.truth >>= fun holds => if holds then taken' else others') := by
  apply alike_bind_same
    (alike_ask (alike_queries_condition condition fun name _ => common_of_same name).1)
  intro holds
  cases holds with
  | true => exact first
  | false => exact second

theorem same_resolver (resolver : Resolver) :
    AlikeResolvers (sameBesides bodies sites) resolver resolver where
  facts _ _ := rfl
  content earlier target := by
    cases resolver.content earlier target with
    | ok bytes => exact .ok ⟨rfl, rfl⟩
    | error error => exact .error error

end

/-- Blocks have bodies that mirror each other, and reports come from paired leaves. -/
def mirrored (paired : Node → Node → Prop) : Likeness :=
  sameBesides (Mirrors paired) (PairedSites paired)

section

variable {paired : Node → Node → Prop} {names names' : List String} {resolver : Resolver}

variable {expand : Run.Expansion names} {expand' : Run.Expansion names'}

mutual

theorem alike_mirrors (expands : AlikeExpansions (mirrored paired) expand expand') :
    Mirrors paired nodes nodes' → ∀ within within', Alike (mirrored paired) Eq
      (Run.renderAll resolver expand nodes within) (Run.renderAll resolver expand' nodes' within')
  | .nil, _, _ => by
    simp only [Run.renderAll]
    exact alike_pure rfl
  | .cons first later, _, _ => by
    simp only [Run.renderAll]
    apply alike_bind_same (alike_mirrors_node expands first _ _)
    intro _
    exact alike_mirrors expands later _ _

theorem alike_mirrors_node (expands : AlikeExpansions (mirrored paired) expand expand') :
    MirrorsNode paired node node' → ∀ within within', Alike (mirrored paired) Eq
      (Run.renderNode resolver expand node within) (Run.renderNode resolver expand' node' within')
  | @MirrorsNode.leaf _ span content span' same, _, _ => by
    simp only [Run.renderNode]
    -- text has no site that could be paired, and needs none
    by_cases text : ∃ bytes, content = .literal bytes
    · obtain ⟨bytes, rfl⟩ := text
      exact alike_emit rfl
    · have notText : ∀ bytes, content ≠ .literal bytes := fun bytes is => text ⟨bytes, is⟩
      exact alike_leaf (same_resolver resolver) (.leaf notText same) expands content
        (fair_of_same (.leaf span content))
  | .conditional body branches, _, _ => by
    simp only [Run.renderNode]
    exact alike_choice _ (alike_mirrors expands body _ _)
      (alike_mirrors_branches expands branches _ _)
  | .block body, _, _ => by
    simp only [Run.renderNode]
    exact alike_define ⟨rfl, body⟩

theorem alike_mirrors_branches (expands : AlikeExpansions (mirrored paired) expand expand') :
    MirrorsBranches paired rest rest' → ∀ within within', Alike (mirrored paired) Eq
      (Run.renderBranches resolver expand rest within)
      (Run.renderBranches resolver expand' rest' within')
  | .done, _, _ => by
    simp only [Run.renderBranches]
    exact alike_pure rfl
  | .otherwise body, _, _ => by
    simp only [Run.renderBranches]
    exact alike_mirrors expands body _ _
  | .elif body later, _, _ => by
    simp only [Run.renderBranches]
    exact alike_choice _ (alike_mirrors expands body _ _) (alike_mirrors_branches expands later _ _)
  | .nested body later, _, _ => by
    simp only [Run.renderBranches, Run.renderAll, Run.renderNode]
    -- nothing comes after the conditional in its branch
    refine Eq.mpr (congrArg (Alike _ _ _) (Plans.bind_pure _)) ?_
    exact alike_choice _ (alike_mirrors expands body _ _) (alike_mirrors_branches expands later _ _)

end

/-- Evaluations of trees that mirror each other are alike, up to the end or to a fatal answer. -/
theorem alike_mirrored (mirrors : Mirrors paired nodes nodes') (resolver : Resolver)
    (context : Context) : AlikeOutcomes (mirrored paired) Eq (outcomeOf resolver context nodes)
      (outcomeOf resolver context nodes') := by
  have bodies (names names' : List String) :
      AlikeBodies (mirrored paired) resolver resolver names names' :=
    fun _ _ mirrored _ _ expands => alike_mirrors expands mirrored
  unfold outcomeOf
  rw [run_of_tree, run_of_tree]
  exact alike_mirrors (alike_expand (bodies _ _) []) mirrors _ _ _ _ ⟨rfl, .nil, rfl⟩

end

/-! ## Conditionals inside conditionals -/

mutual

def nestNode (place : Span) : Node → Node
  | .leaf span content => .leaf span content
  | .conditional span condition body rest =>
    .conditional span condition (nest place body) (nestBranches place rest)
  | .block span name body => .block span name (nest place body)

def nestBranches (place : Span) : Branches → Branches
  | .done => .done
  | .otherwise body => .otherwise (nest place body)
  | .elif condition body rest =>
    .otherwise [.conditional place condition (nest place body) (nestBranches place rest)]

/-- A tree in which every conditional has one condition: with the first `elif` a conditional of its own
begins, which stands in the last branch. These are given a place that is of no importance. -/
def nest (place : Span) : List Node → List Node
  | [] => []
  | node :: rest => nestNode place node :: nest place rest

end

mutual

theorem mirrors_nest (place : Span) : (nodes : List Node) → Mirrors Eq nodes (nest place nodes)
  | [] => by
    rw [nest]
    exact .nil
  | node :: rest => by
    rw [nest]
    exact .cons (mirrors_nest_node place node) (mirrors_nest place rest)

theorem mirrors_nest_node (place : Span) : (node : Node) → MirrorsNode Eq node (nestNode place node)
  | .leaf span content => by
    rw [nestNode]
    exact .leaf rfl
  | .conditional span condition body rest => by
    rw [nestNode]
    exact .conditional (mirrors_nest place body) (mirrors_nest_branches place rest)
  | .block span name body => by
    rw [nestNode]
    exact .block (mirrors_nest place body)

theorem mirrors_nest_branches (place : Span) :
    (rest : Branches) → MirrorsBranches Eq rest (nestBranches place rest)
  | .done => by
    rw [nestBranches]
    exact .done
  | .otherwise body => by
    rw [nestBranches]
    exact .otherwise (mirrors_nest place body)
  | .elif condition body rest => by
    rw [nestBranches]
    exact .nested (mirrors_nest place body) (mirrors_nest_branches place rest)

end

theorem nest_eq_map (place : Span) (nodes : List Node) :
    nest place nodes = nodes.map (nestNode place) := by
  induction nodes with
  | nil => rw [nest, List.map_nil]
  | cons node rest ih => rw [nest, List.map_cons, ih]

/-- Branches that are left have no condition, and what stands in them is nested. -/
theorem nested_branches (place : Span) (rest : Branches) :
    (nestBranches place rest).elifs = [] ∧
      ∀ node, .node node ∈ branchItems (nestBranches place rest) →
        ∃ original, node = nestNode place original := by
  cases rest with
  | done => simp [nestBranches, Branches.elifs, branchItems]
  | otherwise body =>
    simp only [nestBranches, Branches.elifs, branchItems, nest_eq_map, true_and]
    intro node member
    simp only [List.mem_cons, reduceCtorEq, List.mem_map, Accounting.Item.node.injEq, false_or] at member
    obtain ⟨_, ⟨original, _, rfl⟩, rfl⟩ := member
    exact ⟨original, rfl⟩
  | elif condition body rest =>
    simp only [nestBranches, Branches.elifs, branchItems, true_and]
    intro node member
    simp only [List.map_cons, List.map_nil, List.mem_cons, reduceCtorEq, Accounting.Item.node.injEq,
      List.not_mem_nil, or_false, false_or] at member
    exact ⟨.conditional place condition body rest, by rw [member, nestNode]⟩

/-- What a nested node is made of is nested. -/
theorem nested_of_items {node original : Node} (child : .node node ∈ items (nestNode place original)) :
    ∃ original', node = nestNode place original' := by
  have of_body {body : List Node} (member : node ∈ nest place body) :
      ∃ original', node = nestNode place original' := by
    rw [nest_eq_map] at member
    obtain ⟨original', _, rfl⟩ := List.mem_map.1 member
    exact ⟨original', rfl⟩
  cases original with
  | leaf span content =>
    cases content <;> simp [nestNode, items, Accounting.leafItem] at child
  | conditional span condition body rest =>
    simp only [nestNode, items, List.mem_cons, List.mem_append, List.mem_map, reduceCtorEq,
      Accounting.Item.node.injEq, exists_eq_right, false_or, List.not_mem_nil, or_false] at child
    rcases child with inBody | inBranches
    · exact of_body inBody
    · exact (nested_branches place rest).2 node inBranches
  | block span name body =>
    simp only [nestNode, items, List.mem_cons, List.mem_append, List.mem_map, reduceCtorEq,
      Accounting.Item.node.injEq, exists_eq_right, false_or, List.not_mem_nil, or_false] at child
    exact of_body child

theorem nested_of_inside (inside : Inside node top) :
    ∀ original, top = nestNode place original → ∃ original', node = nestNode place original' := by
  induction inside with
  | here => exact fun original same => ⟨original, same⟩
  | deeper child _ ih =>
    rintro original rfl
    obtain ⟨original', rfl⟩ := nested_of_items child
    exact ih original' rfl

/-- No conditional of a nested tree has a second condition. -/
theorem elifs_of_nest (held : Has (nest place nodes) (.conditional span condition body rest)) :
    rest.elifs = [] := by
  obtain ⟨top, member, inside⟩ := held
  rw [nest_eq_map] at member
  obtain ⟨outer, _, rfl⟩ := List.mem_map.1 member
  obtain ⟨original, same⟩ := nested_of_inside inside outer rfl
  cases original with
  | leaf => simp [nestNode] at same
  | block => simp [nestNode] at same
  | conditional _ _ _ branches =>
    simp only [nestNode, Node.conditional.injEq] at same
    rw [same.2.2.2]
    exact (nested_branches place branches).1

theorem eq_of_paired (paired : PairedSites Eq site site') : site = site' := by
  cases paired with
  | leaf notText same => rw [same]

/-- Every tree can be written without `elif`, and it makes no difference to evaluations which `elif`
branches are conditionals of their own, wherever these are said to stand: output, faults, calls of the
resolver, look-ups and the context that is left are the same, or else the fatal answer. -/
theorem evaluate_nested (resolver : Resolver) (context : Context) (nodes : List Node) :
    (∀ place, Mirrors Eq nodes (nest place nodes) ∧ ∀ span condition body rest,
      Has (nest place nodes) (.conditional span condition body rest) → rest.elifs = []) ∧
    ∀ nested, Mirrors Eq nodes nested →
      evaluate resolver context nested = evaluate resolver context nodes ∧
      ((Evaluator.ofContext context.resetSettings).render resolver nested).2.context =
        ((Evaluator.ofContext context.resetSettings).render resolver nodes).2.context := by
  refine ⟨fun place => ⟨mirrors_nest place nodes, fun _ _ _ _ held => elifs_of_nest held⟩, ?_⟩
  intro nested mirrors
  obtain ⟨result, state, log⟩ := alike_mirrored mirrors resolver context
  have logs : (outcomeOf resolver context nodes).log = (outcomeOf resolver context nested).log :=
    log_eq eq_of_paired id log
  have contexts : (outcomeOf resolver context nodes).state.context =
      (outcomeOf resolver context nested).state.context := state.contexts
  constructor
  · rw [evaluate_eq, evaluate_eq]
    rw [result_eq eq_of_paired result, logs, contexts]
  · rw [context_of_render, context_of_render, contexts]

/-- The second of three branches becomes a conditional in the last one, and is still the one taken. -/
theorem evaluate_nested_elif :
    let text (letter : String) : List Node := [.leaf ⟨0, 1⟩ (.literal (Bytes.ofText letter))]
    let nodes : List Node := [.conditional ⟨0, 90⟩ (.reference "a") (text "A")
      (.elif (.reference "b") (text "B") (.otherwise (text "C")))]
    let nested : List Node := [.conditional ⟨0, 90⟩ (.reference "a") (text "A")
      (.otherwise [.conditional ⟨30, 80⟩ (.reference "b") (text "B") (.otherwise (text "C"))])]
    let resolver := FileStore.empty.resolver
    let context := (Context.ofSettings .standard).set "b" "1"
    Mirrors Eq nodes nested ∧ (evaluate resolver context nested).2.output = Bytes.ofText "B" ∧
      evaluate resolver context nested = evaluate resolver context nodes := by
  intro text nodes nested resolver context
  obtain ⟨mirrored, same⟩ := evaluate_nested resolver context nodes
  have mirrors : Mirrors Eq nodes nested := (mirrored ⟨30, 80⟩).1
  have output : (evaluate resolver context nested).2.output = Bytes.ofText "B" := by decide +kernel
  exact ⟨mirrors, output, (same nested mirrors).1⟩

end ServerIncludes.Rearrangement
