import ServerIncludes.Proofs.Document.Accounting
import ServerIncludes.Proofs.Evaluation.Plan

/-! The questions that an evaluation puts to its resolver, each with the node that puts it. All of
them come from inclusions and from directives that write what is known about a target, in the tree
itself or in a block that it defines; they are about the target that the directive names, filled in,
or about the path it falls back on. In the same way, no node changes a context except as it says. -/
namespace ServerIncludes.Questions

open Accounting (Inside Item branchItems items)
open Plans
open Run (free free_cons_lt)

/-- A question for the resolver and the node that puts it. -/
structure Question where
  node : Node
  call : ResolverCall

section

variable {names : List String}

/-- Goes on after an outcome, unless it ended the evaluation. -/
def onwards (outcome : Outcome names α) (next : α → EvalState names → List β) : List β :=
  match outcome.result with
  | .error _ => []
  | .ok value => next value outcome.state

/-- The questions that are put when a plan is carried out. Those put in a block are among them. -/
def questions (resolver : Resolver) : Plan names α → EvalState names → List Question
  | .done _, _ => []
  | .step node first next, state =>
    (first.call?.map (Question.mk node)).toList ++
      onwards (first.run resolver (siteOf node) state) fun answer later =>
        questions resolver (next answer) later
  | .inside _ body next, state =>
    questions resolver body state ++
      onwards (Run.capture (body.run resolver) state) fun bytes later =>
        questions resolver (next bytes) later

end

/-- The questions that nodes have for a resolver, their templates filled in by some context. -/
inductive Puts : Node → ResolverCall → Prop where
  | content (context : Context) :
    Puts (.leaf span (.inclusion target onError store stub)) (.resolve (target.map context.substitute))
  | onError (context : Context) :
    Puts (.leaf span (.inclusion target (some path) store stub))
      (.resolve (.virtual (context.substitute path)))
  | modified (context : Context) :
    Puts (.leaf span (.lastModified target)) (.metadata (target.map context.substitute))
  | size (context : Context) :
    Puts (.leaf span (.fileSize target)) (.metadata (target.map context.substitute))

/-- A tree has a node, at any depth. -/
def Has (tree : List Node) (node : Node) : Prop := ∃ top ∈ tree, Inside node top

theorem has_of_mem (member : node ∈ tree) : Has tree node := ⟨node, member, .here⟩

/-- The nodes that a node is made of. -/
def parts (node : Node) : List Node := (items node).filterMap fun
  | .node inner => some inner
  | _ => none

theorem mem_parts {node : Node} : part ∈ parts node ↔ .node part ∈ items node := by
  unfold parts
  rw [List.mem_filterMap]
  constructor
  · rintro ⟨item, member, same⟩
    cases item with
    | node held =>
      cases same
      exact member
    | _ => cases same
  · exact fun member => ⟨.node part, member, rfl⟩

theorem has_nil : ¬Has [] node := fun ⟨_, member, _⟩ => nomatch member

/-- The nodes of a tree, one top node at a time. -/
theorem has_cons : Has (top :: rest) node ↔ node = top ∨ Has (parts top) node ∨ Has rest node := by
  constructor
  · rintro ⟨found, member, inside⟩
    rcases List.mem_cons.1 member with rfl | later
    · cases inside with
      | here => exact .inl rfl
      | deeper child inside => exact .inr (.inl ⟨_, mem_parts.2 child, inside⟩)
    · exact .inr (.inr ⟨found, later, inside⟩)
  · rintro (rfl | ⟨child, member, inside⟩ | ⟨found, later, inside⟩)
    · exact has_of_mem List.mem_cons_self
    · exact ⟨top, List.mem_cons_self, .deeper (mem_parts.1 member) inside⟩
    · exact ⟨found, List.mem_cons_of_mem _ later, inside⟩

theorem inside_trans (inner : Inside node middle) (outer : Inside middle top) : Inside node top := by
  induction outer with
  | here => exact inner
  | deeper child _ ih => exact .deeper child ih

/-- What a node of the tree is made of is in the tree. -/
theorem has_item {node : Node} (held : Has tree parent) (child : .node node ∈ items parent) :
    Has tree node := by
  obtain ⟨top, member, inside⟩ := held
  exact ⟨top, member, inside_trans (.deeper child .here) inside⟩

theorem has_of_block (held : Has tree (.block span name body)) : ∀ node ∈ body, Has tree node :=
  fun _ member => has_item held (by simp [items, member])

theorem has_of_body (held : Has tree (.conditional span condition body rest)) :
    ∀ node ∈ body, Has tree node :=
  fun _ member => has_item held (by simp [items, member])

/-- A tree has all nodes of some branches. -/
def HasBranches (tree : List Node) (rest : Branches) : Prop :=
  ∀ node, .node node ∈ branchItems rest → Has tree node

theorem has_of_branches (held : Has tree (.conditional span condition body rest)) :
    HasBranches tree rest :=
  fun _ member => has_item held (by simp [items, member])

theorem has_of_otherwise (held : HasBranches tree (.otherwise body)) : ∀ node ∈ body, Has tree node :=
  fun node member => held node (by simp [branchItems, member])

theorem has_of_elif (held : HasBranches tree (.elif condition body rest)) :
    (∀ node ∈ body, Has tree node) ∧ HasBranches tree rest :=
  ⟨fun node member => held node (by simp [branchItems, member]),
    fun node member => held node (by simp [branchItems, member])⟩

/-! ## What nodes do besides -/

/-- The conditions of a node, those of its later branches included. -/
def conditions : Node → List Condition
  | .conditional _ condition _ rest => condition :: rest.elifs.map (·.1)
  | _ => []

/-- The name under which a node stores a text or a content. -/
inductive Stores : Node → String → Prop where
  | text : Stores (.leaf span (.assign name value)) name
  | content : Stores (.leaf span (.inclusion target onError (some name) stub)) name

/-- The settings that a node changes, its templates filled in. -/
inductive Configures : Node → Option String → Option String → Option SizeFormat → Option String →
    Prop where
  | given (errors : errorMessage'.isSome = errorMessage.isSome)
      (missing : missingMessage'.isSome = missingMessage.isSome) :
    Configures (.leaf span (.configure errorMessage missingMessage sizeFormat timeFormat))
      errorMessage' missingMessage' sizeFormat timeFormat

/-! ## Plans that stay within a tree -/

section

variable {names : List String} {tree : List Node}

/-- A node asks the resolver, settles conditions, changes the context and defines blocks only as it
says. -/
def Does (node : Node) : Step names α → Prop
  | .truth condition => condition ∈ conditions node
  | .assign name _ => Stores node name
  | .configure errorMessage missingMessage sizeFormat timeFormat =>
    Configures node errorMessage missingMessage sizeFormat timeFormat
  | .resolve target => Puts node (.resolve target)
  | .metadata target => Puts node (.metadata target)
  | .define block => ∃ span, node = .block span block.name block.body
  | _ => True

/-- A step of a node of the tree, and one that the node does. -/
def Fits (tree : List Node) (node : Node) (step : Step names α) : Prop :=
  Has tree node ∧ Does node step

/-- What can be relied on in the answers of steps. -/
def Answers (tree : List Node) : Step names α → α → Prop
  | .substitute template, text => ∃ context : Context, text = context.substitute template
  | .block? _, found => ∀ block ∈ found, ∀ inner ∈ block.body, Has tree inner
  | _, _ => True

/-- All steps of a plan fit in a tree, and what it gives in the end is as expected. -/
def Stays (tree : List Node) : Plan names α → (α → Prop) → Prop
  | .done value, expected => expected value
  | .step node first next, expected =>
    Fits tree node first ∧ ∀ answer, Answers tree first answer → Stays tree (next answer) expected
  | .inside _ body next, expected =>
    Stays tree body (fun _ => True) ∧ ∀ bytes, Stays tree (next bytes) expected

theorem stays_bind {plan : Plan names α} {next : α → Plan names β} (first : Stays tree plan between)
    (later : ∀ value, between value → Stays tree (next value) expected) :
    Stays tree (plan >>= next) expected := by
  induction plan with
  | done value => exact later value first
  | step node step after ih =>
    constructor
    · exact first.1
    · intro answer answered
      exact ih answer (first.2 answer answered) later
  | inside name body after _ ih =>
    constructor
    · exact first.1
    · intro bytes
      exact ih bytes (first.2 bytes) later

theorem stays_act {step : Step names α} (fits : Fits tree node step)
    (enough : ∀ answer, Answers tree step answer → expected answer) :
    Stays tree (act node step) expected := ⟨fits, enough⟩

/-- A step about which nothing is asked. -/
theorem stays_idle {step : Step names α} (fits : Fits tree node step) :
    Stays tree (act node step) fun _ => True := stays_act fits fun _ _ => trivial

theorem stays_emit_error_message (held : Has tree node) :
    Stays tree (emitErrorMessage node : Plan names Unit) fun _ => True :=
  stays_bind (stays_idle ⟨held, trivial⟩) fun _ _ => stays_idle ⟨held, trivial⟩

theorem stays_substitute (held : Has tree node) (template : Template) :
    Stays tree (act node (.substitute template) : Plan names String) fun text =>
      ∃ context : Context, text = context.substitute template :=
  stays_act ⟨held, trivial⟩ fun _ answered => answered

theorem stays_substitute_target (held : Has tree node) (target : Target Template) :
    Stays tree (substituteTarget node target : Plan names (Target String)) fun filled =>
      ∃ context : Context, filled = target.map context.substitute := by
  cases target with
  | virtual path =>
    apply stays_bind (stays_substitute held path)
    rintro text ⟨context, rfl⟩
    exact ⟨context, rfl⟩
  | file path =>
    apply stays_bind (stays_substitute held path)
    rintro text ⟨context, rfl⟩
    exact ⟨context, rfl⟩

theorem stays_substitute? (held : Has tree node) (template : Option Template) :
    Stays tree (substitute? node template : Plan names (Option String)) fun text =>
      text.isSome = template.isSome := by
  cases template with
  | none => rfl
  | some template => exact stays_bind (stays_substitute held template) fun _ _ => rfl

theorem stays_fetch (held : Has tree node)
    (content : ∀ context : Context, Puts node (.resolve (target.map context.substitute)))
    (fallback : ∀ path ∈ onError, ∀ context : Context,
      Puts node (.resolve (.virtual (context.substitute path)))) :
    Stays tree (fetch node target onError : Plan names (Option Bytes)) fun _ => True := by
  apply stays_bind (stays_substitute_target held target)
  rintro filled ⟨context, rfl⟩
  refine stays_bind (stays_idle ⟨held, content context⟩) fun fetched _ => ?_
  cases fetched with
  | some bytes => trivial
  | none =>
    cases onError with
    | none => trivial
    | some path =>
      apply stays_bind (stays_substitute held path)
      rintro text ⟨context, rfl⟩
      exact stays_idle ⟨held, fallback path rfl context⟩

theorem stays_describe (held : Has tree node) {write : Metadata → Plan names String}
    (writes : ∀ known, Stays tree (write known) fun _ => True)
    (put : ∀ context : Context, Puts node (.metadata (target.map context.substitute))) :
    Stays tree (describe node target write) fun _ => True := by
  apply stays_bind (stays_substitute_target held target)
  rintro filled ⟨context, rfl⟩
  refine stays_bind (stays_idle ⟨held, put context⟩) fun known _ => ?_
  cases known with
  | none => exact stays_emit_error_message held
  | some metadata => exact stays_bind (writes metadata) fun _ _ => stays_idle ⟨held, trivial⟩

section

variable {expansion : Expansion names}
  (expands : ∀ node, Has tree node → ∀ name, Stays tree (expansion node name) fun _ => True)

include expands

theorem stays_echo (held : Has tree node) (name : String) (encoding : Option Encoding)
    (default : Option Template) :
    Stays tree (echo expansion node name encoding default) fun _ => True := by
  have idle : ∀ {α : Type} {step : Step names α}, Does node step →
      Stays tree (act node step) fun _ => True := fun own => stays_idle ⟨held, own⟩
  refine stays_bind (idle trivial) fun found _ => ?_
  cases found with
  | some value => exact stays_bind (idle trivial) fun _ _ => idle trivial
  | none =>
    refine stays_bind (idle trivial) fun block _ => ?_
    split
    · apply stays_bind (expands node held name)
      intro written _
      cases written with
      | some bytes => exact idle trivial
      | none => exact stays_emit_error_message held
    · cases default with
      | some template => exact stays_bind (idle trivial) fun _ _ => idle trivial
      | none =>
        refine stays_bind (idle trivial) fun settings _ => ?_
        exact stays_bind (idle trivial) fun _ _ => idle trivial

theorem stays_substitute_stub (held : Has tree node) (content : Option Bytes)
    (stub : Option String) :
    Stays tree (substituteStub expansion node content stub) fun _ => True := by
  cases stub with
  | none => trivial
  | some name =>
    simp only [substituteStub]
    split
    · trivial
    · refine stays_bind (stays_idle ⟨held, trivial⟩) fun block _ => ?_
      split
      · exact expands node held name
      · exact stays_bind (stays_idle ⟨held, trivial⟩) fun _ _ => trivial

theorem stays_leaf (held : Has tree (.leaf span content)) :
    Stays tree (leaf expansion (.leaf span content) content) fun _ => True := by
  cases content with
  | literal bytes => exact stays_idle ⟨held, trivial⟩
  | echo name encoding default => exact stays_echo expands held name encoding default
  | assign name value =>
    exact stays_bind (stays_idle ⟨held, trivial⟩) fun _ _ => stays_idle ⟨held, .text⟩
  | inclusion target onError store stub =>
    apply stays_bind (stays_fetch held (fun context => .content context) ?_)
    · intro fetched _
      apply stays_bind (stays_substitute_stub expands held fetched stub)
      intro included _
      cases included with
      | none => exact stays_emit_error_message held
      | some bytes =>
        cases store with
        | none => exact stays_idle ⟨held, trivial⟩
        | some name => exact stays_idle ⟨held, .content⟩
    · rintro path ⟨⟩ context
      exact .onError context
  | configure errorMessage missingMessage sizeFormat timeFormat =>
    apply stays_bind (stays_substitute? held errorMessage)
    intro errors filled
    apply stays_bind (stays_substitute? held missingMessage)
    intro missing filled'
    exact stays_idle ⟨held, .given filled filled'⟩
  | lastModified target =>
    exact stays_describe held (fun _ => stays_idle ⟨held, trivial⟩) fun context => .modified context
  | fileSize target =>
    apply stays_describe held
    · exact fun _ => stays_bind (stays_idle ⟨held, trivial⟩) fun _ _ => trivial
    · exact fun context => .size context
  | listVariables =>
    exact stays_bind (stays_idle ⟨held, trivial⟩) fun _ _ => stays_idle ⟨held, trivial⟩
  | comment => trivial
  | unknown name => trivial

end

variable {expansion : Expansion names}

mutual

theorem stays_all
    (expands : ∀ node, Has tree node → ∀ name, Stays tree (expansion node name) fun _ => True) :
    (nodes : List Node) → (within : Node.listBlockNames nodes ⊆ names) →
    (∀ node ∈ nodes, Has tree node) → Stays tree (all expansion nodes within) fun _ => True
  | [], _, _ => by
    unfold all
    trivial
  | node :: rest, within, held => by
    obtain ⟨first, later⟩ := List.forall_mem_cons.1 held
    unfold all
    exact stays_bind (stays_single expands node _ first) fun _ _ => stays_all expands rest _ later

theorem stays_single
    (expands : ∀ node, Has tree node → ∀ name, Stays tree (expansion node name) fun _ => True) :
    (node : Node) → (within : node.blockNames ⊆ names) → Has tree node →
    Stays tree (single expansion node within) fun _ => True
  | .leaf span content, _, held => by
    unfold single
    exact stays_leaf expands held
  | .conditional span condition body rest, within, held => by
    unfold single
    refine stays_bind (stays_idle ⟨held, List.mem_cons_self⟩) fun holds _ => ?_
    cases holds with
    | true => exact stays_all expands body _ (has_of_body held)
    | false =>
      exact stays_branches expands held rest _ (has_of_branches held) fun _ member =>
        List.mem_cons_of_mem _ member
  | .block span name body, within, held => by
    unfold single
    exact stays_idle ⟨held, span, rfl⟩

theorem stays_branches
    (expands : ∀ node, Has tree node → ∀ name, Stays tree (expansion node name) fun _ => True)
    (own : Has tree node) : (rest : Branches) → (within : rest.blockNames ⊆ names) →
    HasBranches tree rest → (∀ condition ∈ rest.elifs.map (·.1), condition ∈ conditions node) →
    Stays tree (branches expansion node rest within) fun _ => True
  | .done, _, _, _ => by
    unfold branches
    trivial
  | .otherwise body, within, held, _ => by
    unfold branches
    exact stays_all expands body _ (has_of_otherwise held)
  | .elif condition body rest, within, held, tried => by
    unfold branches
    obtain ⟨first, others⟩ := List.forall_mem_cons.1 tried
    obtain ⟨heldBody, heldRest⟩ := has_of_elif held
    refine stays_bind (stays_idle ⟨own, first⟩) fun holds _ => ?_
    cases holds with
    | true => exact stays_all expands body _ heldBody
    | false => exact stays_branches expands own rest _ heldRest others

end

theorem stays_expand (chain : List String) (node : Node) (held : Has tree node) (name : String) :
    Stays tree (expand chain node name : Plan names (Option Bytes)) fun _ => True := by
  rw [expand]
  refine stays_bind (stays_act ⟨held, trivial⟩ fun _ known => known) fun found known => ?_
  cases found with
  | none => trivial
  | some block =>
    by_cases refused : block.name ∈ chain
    · simp only [refused, dif_pos]
      exact stays_bind (stays_idle ⟨held, trivial⟩) fun _ _ => trivial
    · simp only [refused, dif_neg, not_false_eq_true]
      have fewer : free names (block.name :: chain) < free names chain :=
        free_cons_lt block.name_mem refused
      constructor
      -- the body is that of a block which the tree defines, so its nodes are in the tree
      · exact stays_all (fun node => stays_expand (block.name :: chain) node) block.body _
          (known block rfl)
      · intro bytes
        trivial
termination_by free names chain
decreasing_by exact fewer

theorem stays_of_tree (nodes : List Node) (within : Node.listBlockNames nodes ⊆ names) :
    Stays nodes (ofTree nodes within) fun _ => True :=
  stays_all (stays_expand []) nodes within fun _ member => has_of_mem member

/-! ## Carrying out plans that stay within a tree -/

/-- All blocks that have been defined are from a tree. -/
def Known (tree : List Node) (state : EvalState names) : Prop :=
  ∀ block ∈ state.blocks, ∀ inner ∈ block.body, Has tree inner

theorem known_empty (fresh : state.blocks = []) : Known tree (state : EvalState names) := by
  intro block member
  rw [fresh] at member
  cases member

variable {resolver : Resolver}

theorem known_step (resolver : Resolver) (site : Site) {step : Step names α}
    (fits : Fits tree node step) (known : Known tree state) :
    Known tree (step.run resolver site state).state ∧
      ∀ answer, (step.run resolver site state).result = .ok answer → Answers tree step answer := by
  cases step with
  | substitute template =>
    refine ⟨known, ?_⟩
    rintro answer ⟨⟩
    exact ⟨state.context, rfl⟩
  | define block =>
    refine ⟨?_, fun _ _ => trivial⟩
    intro other member
    rcases List.mem_cons.1 member with rfl | before
    · obtain ⟨held, span, rfl⟩ := fits
      exact has_of_block held
    · exact known other (List.mem_filter.1 before).1
  | block? name =>
    refine ⟨known, ?_⟩
    rintro answer ⟨⟩ block found
    exact known block (List.mem_of_find?_eq_some found)
  | resolve target =>
    refine ⟨?_, fun _ _ => trivial⟩
    simp only [Step.run, Run.resolve, consult_leaves]
    exact known
  | metadata target =>
    refine ⟨?_, fun _ _ => trivial⟩
    simp only [Step.run, Run.metadata, consult_leaves]
    exact known
  | _ => exact ⟨known, fun _ _ => trivial⟩

/-- The question of a step, if it has one, is one of those that its node has. -/
theorem put_of_fits {step : Step names α} (fits : Fits tree node step) :
    ∀ call ∈ step.call?, Has tree node ∧ Puts node call := by
  intro call asked
  cases step with
  | resolve target =>
    cases asked
    exact fits
  | metadata target =>
    cases asked
    exact fits
  | _ => cases asked

theorem known_bind {first : Run names α} {next : α → Run names β}
    (known : Known tree (first state).state)
    (later : ∀ value, (first state).result = .ok value →
      Known tree (next value (first state).state).state) :
    Known tree ((first >>= next) state).state := by
  cases ended : (first state).result with
  | error abort =>
    rw [bind_of_error ended]
    exact known
  | ok value =>
    rw [bind_of_ok ended]
    exact later value ended

theorem forall_mem_onwards {fact : β → Prop} {outcome : Outcome names α}
    {next : α → EvalState names → List β}
    (later : ∀ value, outcome.result = .ok value →
      ∀ member ∈ next value outcome.state, fact member) :
    ∀ member ∈ onwards outcome next, fact member := by
  unfold onwards
  cases ended : outcome.result with
  | error abort => exact nofun
  | ok value => exact later value ended

/-- While a plan that stays within a tree is carried out, no blocks but those of the tree get
defined. -/
theorem known_of_stays {plan : Plan names α} (stays : Stays tree plan expected)
    (known : Known tree state) : Known tree (plan.run resolver state).state := by
  induction plan generalizing state with
  | done value => exact known
  | step node first next ih =>
    obtain ⟨still, answered⟩ := known_step resolver (siteOf node) stays.1 known
    apply known_bind still
    intro answer ended
    exact ih answer (stays.2 answer (answered answer ended)) still
  | inside name body next inner ih =>
    have still : Known tree (Run.capture (body.run resolver) state).state := inner stays.1 known
    apply known_bind still
    intro bytes _
    exact ih bytes (stays.2 bytes) still

/-- The questions of a plan that stays within a tree are put by nodes of the tree that have them. -/
theorem questions_of_stays {plan : Plan names α} (stays : Stays tree plan expected)
    (known : Known tree state) : ∀ question ∈ questions resolver plan state,
      Has tree question.node ∧ Puts question.node question.call := by
  induction plan generalizing state with
  | done value => exact nofun
  | step node first next ih =>
    obtain ⟨still, answered⟩ := known_step resolver (siteOf node) stays.1 known
    unfold questions
    refine List.forall_mem_append.2 ⟨?_, ?_⟩
    · intro question member
      obtain ⟨call, asked, rfl⟩ := Option.map_eq_some_iff.1 (Option.mem_toList.1 member)
      exact put_of_fits stays.1 call asked
    · apply forall_mem_onwards
      intro answer ended
      exact ih answer (stays.2 answer (answered answer ended)) still
  | inside name body next inner ih =>
    unfold questions
    refine List.forall_mem_append.2 ⟨?_, ?_⟩
    · exact inner stays.1 known
    · apply forall_mem_onwards
      intro bytes _
      exact ih bytes (stays.2 bytes) (known_of_stays stays.1 known)

end

end ServerIncludes.Questions
