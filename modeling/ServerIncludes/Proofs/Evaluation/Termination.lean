import Mathlib.Data.List.Dedup
import Mathlib.Data.List.Perm.Subperm
import ServerIncludes.Evaluator

/-! Evaluations end, whatever the blocks in them call for. Blocks are rendered inside one another no
deeper than there are different names of blocks: an evaluation whose recursion goes by the depth
that is left, and which may do anything at all once none is left, comes out the same. -/
namespace ServerIncludes.Termination

open Run

variable {names : List String} (resolver : Resolver)

/-- Has the block of a name rendered, unless there is none or a chain holds it. -/
def unlessHeld (chain : List String) (render : DefinedBlock names → Run names (Option Bytes)) :
    Expansion names := fun site name => do
  match ← block? name with
  | none => return none
  | some block =>
    if block.name ∈ chain then
      record site (.recursiveBlock name)
      return none
    else render block

/-- Renders the body of a block, which may call for further blocks. -/
def renderBlock (expand : Expansion names) (block : DefinedBlock names) :
    Run names (Option Bytes) := do
  let bytes ← capture (renderAll resolver expand block.body block.body_names)
  return some bytes

/-- Rendering of blocks with at most `limit` of them inside one another, below those of a chain. A
block that would have to be rendered any deeper is left to `beyond`. -/
def expandWithin (beyond : Expansion names) : Nat → List String → Expansion names
  | 0, chain => fun site name => unlessHeld chain (fun _ => beyond site name) site name
  | limit + 1, chain => unlessHeld chain fun block =>
    renderBlock resolver (expandWithin beyond limit (block.name :: chain)) block

/-- The chains of blocks that are rendered inside one another. -/
structure Proper (names chain : List String) : Prop where
  distinct : chain.Nodup
  known : chain ⊆ names

theorem proper_nil : Proper names [] := ⟨List.nodup_nil, List.nil_subset names⟩

theorem proper_cons (proper : Proper names chain) (member : name ∈ names) (fresh : name ∉ chain) :
    Proper names (name :: chain) :=
  ⟨proper.distinct.cons fresh, List.cons_subset.2 ⟨member, proper.known⟩⟩

/-- A proper chain has at most as many blocks as there are names. -/
theorem proper_length_le (proper : Proper names chain) : chain.length ≤ names.dedup.length :=
  (List.Nodup.subperm proper.distinct fun _ member =>
    List.mem_dedup.2 (proper.known member)).length_le

/-- A chain that is as long as there are names holds all of them. -/
theorem mem_of_full (proper : Proper names chain) (full : names.dedup.length ≤ chain.length)
    (member : name ∈ names) : name ∈ chain := by
  by_contra fresh
  have longer := proper_length_le (proper_cons proper member fresh)
  rw [List.length_cons] at longer
  omega

theorem unless_held_congr {chain : List String}
    {render render' : DefinedBlock names → Run names (Option Bytes)}
    (same : ∀ block, block.name ∉ chain → render block = render' block) :
    unlessHeld chain render = unlessHeld chain render' := by
  funext site name
  unfold unlessHeld
  refine congrArg (fun next => block? name >>= next) (funext fun found => ?_)
  cases found with
  | none => rfl
  | some block =>
    by_cases held : block.name ∈ chain
    · simp only [held, if_true]
    · simp only [held, if_false, same block held]

/-- What `Run.expand` does: the depth that is left plays no part in it. -/
theorem expand_eq (chain : List String) :
    (expand resolver chain : Expansion names) = unlessHeld chain fun block =>
      renderBlock resolver (expand resolver (block.name :: chain)) block := by
  funext site name
  rw [expand]
  rfl

/-- With as many blocks left as a chain leaves names free, the limit is never met. -/
theorem expand_within_eq_expand (beyond : Expansion names) (proper : Proper names chain)
    (enough : names.dedup.length ≤ limit + chain.length) :
    expandWithin resolver beyond limit chain = expand resolver chain := by
  induction limit generalizing chain with
  | zero =>
    rw [expand_eq]
    funext site name
    -- the chain holds every name there is, so each call is refused before `beyond` is asked
    have full : names.dedup.length ≤ chain.length := by omega
    refine congrFun₂ (unless_held_congr fun block fresh => ?_) site name
    exact absurd (mem_of_full proper full block.name_mem) fresh
  | succ limit ih =>
    rw [expand_eq]
    refine unless_held_congr fun block fresh => ?_
    have deeper : names.dedup.length ≤ limit + (block.name :: chain).length := by
      rw [List.length_cons]
      omega
    rw [ih (proper_cons proper block.name_mem fresh) deeper]

/-- An evaluator that is ready for the blocks of a tree knows their names. -/
theorem block_names_known (evaluator : Evaluator) (nodes : List Node) :
    Node.listBlockNames nodes ⊆ (evaluator.widen (Node.listBlockNames nodes)).names :=
  List.subset_append_right _ _

/-- Renders a tree with at most `limit` blocks inside one another. -/
def renderWithin (beyond : (names : List String) → Expansion names) (limit : Nat)
    (evaluator : Evaluator) (nodes : List Node) : Except Abort Unit × Evaluator :=
  (evaluator.widen (Node.listBlockNames nodes)).advance
    (renderAll resolver (expandWithin resolver (beyond _) limit []) nodes
      (block_names_known evaluator nodes))

/-- Renders trees one after another in one evaluator. Gives how each rendering ended. -/
def renderEach (render : Evaluator → List Node → Except Abort Unit × Evaluator)
    (evaluator : Evaluator) : List (List Node) → List (Except Abort Unit) × Evaluator
  | [] => ([], evaluator)
  | nodes :: later =>
    let (ended, next) := render evaluator nodes
    let (endings, last) := renderEach render next later
    (ended :: endings, last)

/-- Rendering a tree adds the names of its blocks to those of the evaluator, and no others. -/
theorem render_names (evaluator : Evaluator) (nodes : List Node) :
    (evaluator.render resolver nodes).2.names =
      evaluator.names ++ Node.listBlockNames nodes := rfl

theorem render_within_eq_render (beyond : (names : List String) → Expansion names)
    (evaluator : Evaluator) (nodes : List Node)
    (enough : (evaluator.widen (Node.listBlockNames nodes)).names.dedup.length ≤ limit) :
    renderWithin resolver beyond limit evaluator nodes = evaluator.render resolver nodes := by
  unfold renderWithin Evaluator.render
  rw [expand_within_eq_expand resolver _ proper_nil enough]

/-- More names are at least as many different ones. -/
theorem dedup_length_le {few many : List String} (fewer : few ⊆ many) :
    few.dedup.length ≤ many.dedup.length :=
  (List.Nodup.subperm (List.nodup_dedup few) fun _ member =>
    List.mem_dedup.2 (fewer (List.mem_dedup.1 member))).length_le

theorem render_each_of_names (beyond : (names : List String) → Expansion names)
    (trees : List (List Node)) (evaluator : Evaluator)
    (known : evaluator.names ++ trees.flatMap Node.listBlockNames ⊆ all) :
    renderEach (renderWithin resolver beyond all.dedup.length) evaluator trees =
      renderEach (Evaluator.render resolver) evaluator trees := by
  induction trees generalizing evaluator with
  | nil => rfl
  | cons nodes later ih =>
    rw [List.flatMap_cons, ← List.append_assoc] at known
    have first : (evaluator.widen (Node.listBlockNames nodes)).names ⊆ all :=
      (List.append_subset.1 known).1
    have same := render_within_eq_render resolver beyond evaluator nodes (dedup_length_le first)
    have others : (evaluator.render resolver nodes).2.names ++
        later.flatMap Node.listBlockNames ⊆ all := by
      rw [render_names]
      exact known
    simp only [renderEach, same, ih _ others]

/-- Trees that are rendered one after another in one evaluator come out the same if blocks are
rendered inside one another no deeper than the trees have different names of blocks, whatever would
be done beyond that depth. A call for a block that is being rendered already is refused, and no
depth is needed for it. -/
theorem render_each_within (context : Context) (trees : List (List Node))
    (beyond : (names : List String) → Expansion names) :
    renderEach (renderWithin resolver beyond (trees.flatMap Node.listBlockNames).dedup.length)
        (Evaluator.ofContext context) trees =
      renderEach (Evaluator.render resolver) (Evaluator.ofContext context) trees :=
  render_each_of_names resolver beyond trees _ (List.Subset.refl _)

end ServerIncludes.Termination
