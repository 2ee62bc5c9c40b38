import ServerIncludes.Evaluator

/-! Evaluations as plans. A plan tells, step by step, what an evaluation does and which node does it,
and how it goes on after each answer that a step can have; what is answered, it leaves open. To carry
out the plan of a tree is to render the tree, so what is shown of plans, by induction on them, holds
of evaluations. -/
namespace ServerIncludes.Plans

open Run (free free_cons_lt)

/-- Whether a fault comes from what a resolver answered. -/
def fromResolver : FaultCause → Bool
  | .unresolved _ => true
  | _ => false

/-- A single step of an evaluation. Its type is that of the answers it can have. What a resolver
fails to give is recorded with its answer, and by no step of its own. -/
inductive Step (names : List String) : Type → Type where
  | substitute (template : Template) : Step names String
  | get? (name : String) : Step names (Option String)
  | truth (condition : Condition) : Step names Bool
  | writeTime (zone : Zone) (instant : Instant) : Step names String
  | settings : Step names Settings
  | bindings : Step names Variables
  | assign (name value : String) : Step names Unit
  | configure (errorMessage missingMessage : Option String) (sizeFormat : Option SizeFormat)
      (timeFormat : Option String) : Step names Unit
  | emit (bytes : Bytes) : Step names Unit
  | record (cause : FaultCause) (own : fromResolver cause = false) : Step names Unit
  | resolve (target : Target String) : Step names (Option Bytes)
  | metadata (target : Target String) : Step names (Option Metadata)
  | define (block : DefinedBlock names) : Step names Unit
  | block? (name : String) : Step names (Option (DefinedBlock names))

/-- The question that a step puts to the resolver. -/
def Step.call? : Step names α → Option ResolverCall
  | .resolve target => some (.resolve target)
  | .metadata target => some (.metadata target)
  | _ => none

/-- What an evaluation will do. `inside` has the block of a name rendered with an output of its own,
which is its answer. -/
inductive Plan (names : List String) : Type → Type 1 where
  | done {α : Type} (value : α) : Plan names α
  | step {α β : Type} (node : Node) (first : Step names β) (next : β → Plan names α) : Plan names α
  | inside {α : Type} (name : String) (body : Plan names Unit) (next : Bytes → Plan names α) :
    Plan names α

/-- Where a node reports what it does. -/
def siteOf (node : Node) : Site := ⟨node.span.start, node.directive⟩

namespace Plan

variable {names : List String}

def andThen : Plan names α → (α → Plan names β) → Plan names β
  | done value, later => later value
  | step node first next, later => step node first fun answer => (next answer).andThen later
  | inside name body next, later => inside name body fun bytes => (next bytes).andThen later

instance : Monad (Plan names) where
  pure := done
  bind := andThen

end Plan

/-! ## Carrying out plans -/

section

variable {names : List String} (resolver : Resolver)

/-- The settings that are given take the place of those of a context. -/
def changeSettings (errorMessage missingMessage : Option String) (sizeFormat : Option SizeFormat)
    (timeFormat : Option String) (context : Context) : Context :=
  { context with settings :=
    { context.settings with
      errorMessage := errorMessage.getD context.settings.errorMessage
      missingMessage := missingMessage.getD context.settings.missingMessage
      sizeFormat := sizeFormat.getD context.settings.sizeFormat
      timeFormat := timeFormat.getD context.settings.timeFormat } }

def Step.run (site : Site) : Step names α → Run names α
  | .substitute template => Run.substitute template
  | .get? name => Run.ask (Query.get? name)
  | .truth condition => Run.ask condition.truth
  | .writeTime zone instant => Run.ask (Query.writeTime zone instant)
  | .settings => Run.look (·.settings)
  | .bindings => Run.look (·.bindings)
  | .assign name value => Run.change (·.set name value)
  | .configure errorMessage missingMessage sizeFormat timeFormat =>
    Run.change (changeSettings errorMessage missingMessage sizeFormat timeFormat)
  | .emit bytes => Run.emit bytes
  | .record cause _ => Run.record site cause
  | .resolve target => Run.resolve resolver site target
  | .metadata target => Run.metadata resolver site target
  | .define block => Run.define block
  | .block? name => Run.block? name

def Plan.run : Plan names α → Run names α
  | .done value => pure value
  | .step node first next => first.run resolver (siteOf node) >>= fun answer => (next answer).run
  | .inside _ body next => Run.capture body.run >>= fun bytes => (next bytes).run

end

/-! ## Plans of trees -/

section

variable {names : List String}

/-- A step that a node does. -/
def act (node : Node) (step : Step names α) : Plan names α := .step node step .done

abbrev Expansion (names : List String) : Type 1 := Node → String → Plan names (Option Bytes)

def substitute? (node : Node) : Option Template → Plan names (Option String)
  | none => pure none
  | some template => do return some (← act node (.substitute template))

def substituteTarget (node : Node) : Target Template → Plan names (Target String)
  | .virtual path => do return .virtual (← act node (.substitute path))
  | .file path => do return .file (← act node (.substitute path))

def emitText (node : Node) (text : String) : Plan names Unit := act node (.emit (Bytes.ofText text))

def emitErrorMessage (node : Node) : Plan names Unit := do
  emitText node (← act node .settings).errorMessage

def echo (expand : Expansion names) (node : Node) (name : String) (encoding : Option Encoding)
    (default : Option Template) : Plan names Unit := do
  match ← act node (.get? name) with
  | some value =>
    let settings ← act node .settings
    emitText node ((encoding.getD settings.encoding).encode value)
  | none =>
    if (← act node (.block? name)).isSome then
      match ← expand node name with
      | some bytes => act node (.emit bytes)
      | none => emitErrorMessage node
    else
      match default with
      | some template => emitText node (← act node (.substitute template))
      | none =>
        emitText node (← act node .settings).missingMessage
        act node (.record (.undefinedVariable name) rfl)

def fetch (node : Node) (target : Target Template) (onError : Option Template) :
    Plan names (Option Bytes) := do
  match ← act node (.resolve (← substituteTarget node target)) with
  | some bytes => return some bytes
  | none =>
    match onError with
    | none => return none
    | some path => act node (.resolve (.virtual (← act node (.substitute path))))

def substituteStub (expand : Expansion names) (node : Node) (content : Option Bytes)
    (stub : Option String) : Plan names (Option Bytes) := do
  match stub with
  | none => return content
  | some name =>
    if content.any fun bytes => !bytes.isEmpty then return content
    else if (← act node (.block? name)).isSome then expand node name
    else
      act node (.record (.unknownBlock name) rfl)
      return content

def inclusion (expand : Expansion names) (node : Node) (target : Target Template)
    (onError : Option Template) (store stub : Option String) : Plan names Unit := do
  let fetched ← fetch node target onError
  match ← substituteStub expand node fetched stub with
  | none => emitErrorMessage node
  | some bytes =>
    match store with
    | some name => act node (.assign name (Bytes.textLossy bytes))
    | none => act node (.emit bytes)

def configure (node : Node) (errorMessage missingMessage : Option Template)
    (sizeFormat : Option SizeFormat) (timeFormat : Option String) : Plan names Unit := do
  let errorMessage ← substitute? node errorMessage
  let missingMessage ← substitute? node missingMessage
  act node (.configure errorMessage missingMessage sizeFormat timeFormat)

def describe (node : Node) (target : Target Template) (write : Metadata → Plan names String) :
    Plan names Unit := do
  match ← act node (.metadata (← substituteTarget node target)) with
  | some known => emitText node (← write known)
  | none => emitErrorMessage node

def writeModified (node : Node) (known : Metadata) : Plan names String :=
  act node (.writeTime .universal known.modified)

def writeSize (node : Node) (known : Metadata) : Plan names String := do
  return (← act node .settings).sizeFormat.format known.size

def leaf (expand : Expansion names) (node : Node) : Leaf → Plan names Unit
  | .literal bytes => act node (.emit bytes)
  | .echo name encoding default => echo expand node name encoding default
  | .assign name value => do act node (.assign name (← act node (.substitute value)))
  | .inclusion target onError store stub => inclusion expand node target onError store stub
  | .configure errorMessage missingMessage sizeFormat timeFormat =>
    configure node errorMessage missingMessage sizeFormat timeFormat
  | .lastModified target => describe node target (writeModified node)
  | .fileSize target => describe node target (writeSize node)
  | .listVariables => do emitText node (Run.listing (← act node .bindings))
  | .comment => pure ()
  | .unknown _ => pure ()

/-! The names of the blocks in a tree are those of the blocks in its parts. -/

theorem names_of_first (within : Node.listBlockNames (node :: rest) ⊆ names) :
    node.blockNames ⊆ names := (List.append_subset.1 within).1

theorem names_of_rest (within : Node.listBlockNames (node :: rest) ⊆ names) :
    Node.listBlockNames rest ⊆ names := (List.append_subset.1 within).2

theorem names_of_body (within : (Node.conditional span condition body rest).blockNames ⊆ names) :
    Node.listBlockNames body ⊆ names := (List.append_subset.1 within).1

theorem names_of_branches (within : (Node.conditional span condition body rest).blockNames ⊆ names) :
    rest.blockNames ⊆ names := (List.append_subset.1 within).2

theorem names_of_elif (within : (Branches.elif condition body rest).blockNames ⊆ names) :
    Node.listBlockNames body ⊆ names := (List.append_subset.1 within).1

theorem names_of_others (within : (Branches.elif condition body rest).blockNames ⊆ names) :
    rest.blockNames ⊆ names := (List.append_subset.1 within).2

theorem name_of_block (within : (Node.block span name body).blockNames ⊆ names) : name ∈ names :=
  (List.cons_subset.1 within).1

theorem names_of_block (within : (Node.block span name body).blockNames ⊆ names) :
    Node.listBlockNames body ⊆ names := (List.cons_subset.1 within).2

mutual

def all (expand : Expansion names) :
    (nodes : List Node) → Node.listBlockNames nodes ⊆ names → Plan names Unit
  | [], _ => pure ()
  | node :: rest, within => do
    single expand node (names_of_first within)
    all expand rest (names_of_rest within)

def single (expand : Expansion names) : (node : Node) → node.blockNames ⊆ names → Plan names Unit
  | .leaf span content, _ => leaf expand (.leaf span content) content
  | .conditional span condition body rest, within => do
    if ← act (.conditional span condition body rest) (.truth condition) then
      all expand body (names_of_body within)
    else branches expand (.conditional span condition body rest) rest (names_of_branches within)
  | .block span name body, within =>
    act (.block span name body)
      (.define ⟨name, body, name_of_block within, names_of_block within⟩)

/-- The branches of a conditional, which tries their conditions. -/
def branches (expand : Expansion names) (node : Node) :
    (rest : Branches) → rest.blockNames ⊆ names → Plan names Unit
  | .done, _ => pure ()
  | .otherwise body, within => all expand body within
  | .elif condition body rest, within => do
    if ← act node (.truth condition) then all expand body (names_of_elif within)
    else branches expand node rest (names_of_others within)

end

def expand (chain : List String) : Expansion names := fun node name => do
  match ← act node (.block? name) with
  | none => return none
  | some block =>
    if held : block.name ∈ chain then
      act node (.record (.recursiveBlock name) rfl)
      return none
    else
      have : free names (block.name :: chain) < free names chain :=
        free_cons_lt block.name_mem held
      .inside block.name (all (expand (block.name :: chain)) block.body block.body_names)
        fun bytes => return some bytes
termination_by free names chain
decreasing_by exact this

/-- What an evaluation of a tree will do. -/
def ofTree (nodes : List Node) (within : Node.listBlockNames nodes ⊆ names) : Plan names Unit :=
  all (expand []) nodes within

end

/-! ## Rendering is carrying out a plan -/

section

variable {names : List String}

theorem bind_of_ok {step : Run names α} {state : EvalState names}
    (ended : (step state).result = .ok value) (next : α → Run names β) :
    (step >>= next) state =
      let later := next value (step state).state
      ⟨later.result, later.state, (step state).log ++ later.log⟩ := by
  show Run.andThen step next state = _
  simp only [Run.andThen, ended]

theorem bind_of_error {step : Run names α} {state : EvalState names}
    (ended : (step state).result = .error abort) (next : α → Run names β) :
    (step >>= next) state = ⟨.error abort, (step state).state, (step state).log⟩ := by
  show Run.andThen step next state = _
  simp only [Run.andThen, ended]

/-- Whatever the answer to a question is, the question is added to those that were asked, and nothing
is written. -/
theorem consult_leaves (call : ResolverCall) (answer : List ResolverCall → Except ResolveError α)
    (site : Site) (state : EvalState names) :
    let outcome := Run.consult call answer site state
    outcome.state = { state with history := state.history ++ [call] } ∧
      outcome.log.calls = [call] ∧ outcome.log.output = [] := by
  unfold Run.consult
  cases answer state.history with
  | ok value => exact ⟨rfl, rfl, rfl⟩
  | error error => cases error <;> exact ⟨rfl, rfl, rfl⟩

theorem bind_pure (step : Run names α) : (step >>= pure) = step := by
  funext state
  cases ended : (step state).result with
  | error abort => rw [bind_of_error ended, ← ended]
  | ok value =>
    rw [bind_of_ok ended]
    show Outcome.mk (.ok value) _ (_ ++ Log.empty) = _
    rw [Log.append_empty, ← ended]
    rfl

theorem bind_assoc (step : Run names α) (next : α → Run names β) (later : β → Run names γ) :
    ((step >>= next) >>= later) = step >>= fun value => next value >>= later := by
  funext state
  cases ended : (step state).result with
  | error abort =>
    have first := bind_of_error ended next
    have still : ((step >>= next) state).result = .error abort := by rw [first]
    rw [bind_of_error ended, bind_of_error still, first]
  | ok value =>
    have first := bind_of_ok ended next
    rw [bind_of_ok ended]
    cases after : (next value (step state).state).result with
    | error abort =>
      have still : ((step >>= next) state).result = .error abort := by rw [first, after]
      rw [bind_of_error after, bind_of_error still, first]
    | ok result =>
      have still : ((step >>= next) state).result = .ok result := by rw [first, after]
      rw [bind_of_ok after, bind_of_ok still, first]
      simp only [Log.append_assoc]

variable (resolver : Resolver)

theorem run_act (node : Node) (step : Step names α) :
    (act node step).run resolver = step.run resolver (siteOf node) := bind_pure _

theorem run_bind (plan : Plan names α) (next : α → Plan names β) :
    (plan >>= next).run resolver = plan.run resolver >>= fun value => (next value).run resolver := by
  induction plan with
  | done value => rfl
  | step node first after ih =>
    show (first.run resolver (siteOf node) >>= fun answer =>
        ((after answer).andThen next).run resolver) =
      (first.run resolver (siteOf node) >>= fun answer => (after answer).run resolver) >>= _
    rw [bind_assoc]
    exact bind_congr fun answer => ih answer next
  | inside name body after _ ih =>
    show (Run.capture (body.run resolver) >>= fun bytes =>
        ((after bytes).andThen next).run resolver) =
      (Run.capture (body.run resolver) >>= fun bytes => (after bytes).run resolver) >>= _
    rw [bind_assoc]
    exact bind_congr fun bytes => ih bytes next

theorem run_emit_error_message (node : Node) :
    (emitErrorMessage node : Plan names Unit).run resolver = Run.emitErrorMessage := by
  unfold emitErrorMessage
  simp only [run_bind, emitText, run_act]
  rfl

theorem run_substitute_target (node : Node) (target : Target Template) :
    (substituteTarget node target : Plan names (Target String)).run resolver =
      Run.substituteTarget target := by
  cases target with
  | virtual path =>
    simp only [substituteTarget, run_bind, run_act]
    rfl
  | file path =>
    simp only [substituteTarget, run_bind, run_act]
    rfl

theorem run_substitute? (node : Node) (template : Option Template) :
    (substitute? node template : Plan names (Option String)).run resolver =
      Run.substitute? template := by
  cases template with
  | none => rfl
  | some template =>
    simp only [substitute?, run_bind, run_act]
    rfl

theorem run_fetch (node : Node) (target : Target Template) (onError : Option Template) :
    (fetch node target onError : Plan names (Option Bytes)).run resolver =
      Run.fetch resolver (siteOf node) target onError := by
  unfold fetch Run.fetch
  simp only [run_bind, run_act, run_substitute_target]
  apply bind_congr
  intro path
  apply bind_congr
  intro fetched
  cases fetched with
  | some bytes => rfl
  | none =>
    cases onError with
    | none => rfl
    | some path =>
      simp only [run_bind, run_act]
      rfl

/-- An expansion by plans that are carried out as another one renders. -/
def Agrees (expansion : Expansion names) (expanding : Run.Expansion names) : Prop :=
  ∀ node name, (expansion node name).run resolver = expanding (siteOf node) name

section

variable {resolver : Resolver} {expansion : Expansion names} {expanding : Run.Expansion names}
  (same : Agrees resolver expansion expanding)

include same

theorem run_echo (node : Node) (name : String) (encoding : Option Encoding)
    (default : Option Template) :
    (echo expansion node name encoding default).run resolver =
      Run.echo expanding (siteOf node) name encoding default := by
  unfold echo Run.echo
  simp only [run_bind, run_act]
  apply bind_congr
  intro found
  cases found with
  | some value =>
    simp only [run_bind, emitText, run_act]
    rfl
  | none =>
    simp only [run_bind, run_act]
    apply bind_congr
    intro block
    by_cases defined : block.isSome
    · simp only [defined, if_true, run_bind, same node]
      apply bind_congr
      intro written
      cases written with
      | some bytes => exact run_act resolver node _
      | none => exact run_emit_error_message resolver node
    · simp only [defined, Bool.false_eq_true, if_false]
      cases default with
      | some template =>
        simp only [run_bind, emitText, run_act]
        rfl
      | none =>
        simp only [run_bind, emitText, run_act]
        rfl

theorem run_substitute_stub (node : Node) (content : Option Bytes) (stub : Option String) :
    (substituteStub expansion node content stub).run resolver =
      Run.substituteStub expanding (siteOf node) content stub := by
  cases stub with
  | none => rfl
  | some name =>
    simp only [substituteStub, Run.substituteStub]
    by_cases full : content.any fun bytes => !bytes.isEmpty
    · simp only [full, if_true]
      rfl
    · simp only [full, Bool.false_eq_true, if_false, run_bind, run_act]
      apply bind_congr
      intro block
      by_cases defined : block.isSome
      · simp only [defined, if_true, same node]
      · simp only [defined, Bool.false_eq_true, if_false, run_bind, run_act]
        rfl

theorem run_inclusion (node : Node) (target : Target Template) (onError : Option Template)
    (store stub : Option String) :
    (inclusion expansion node target onError store stub).run resolver =
      Run.inclusion resolver expanding (siteOf node) target onError store stub := by
  unfold inclusion Run.inclusion
  simp only [run_bind, run_fetch, run_substitute_stub same]
  apply bind_congr
  intro fetched
  apply bind_congr
  intro content
  cases content with
  | none => exact run_emit_error_message resolver node
  | some bytes =>
    cases store with
    | none => exact run_act resolver node _
    | some name => exact run_act resolver node _

end

theorem run_configure (node : Node) (errorMessage missingMessage : Option Template)
    (sizeFormat : Option SizeFormat) (timeFormat : Option String) :
    (configure node errorMessage missingMessage sizeFormat timeFormat : Plan names Unit).run resolver =
      Run.configure errorMessage missingMessage sizeFormat timeFormat := by
  unfold configure Run.configure
  simp only [run_bind, run_act, run_substitute?]
  rfl

theorem run_describe (node : Node) (target : Target Template)
    {write : Metadata → Plan names String} {writing : Metadata → Run names String}
    (same : ∀ known, (write known).run resolver = writing known) :
    (describe node target write).run resolver =
      Run.describe resolver (siteOf node) target writing := by
  unfold describe Run.describe
  simp only [run_bind, run_act, run_substitute_target]
  apply bind_congr
  intro path
  apply bind_congr
  intro known
  cases known with
  | none => exact run_emit_error_message resolver node
  | some metadata =>
    simp only [run_bind, emitText, run_act, same]
    rfl

theorem run_write_modified (node : Node) (known : Metadata) :
    (writeModified node known : Plan names String).run resolver = Run.writeModified known :=
  run_act resolver node _

theorem run_write_size (node : Node) (known : Metadata) :
    (writeSize node known : Plan names String).run resolver = Run.writeSize known := by
  simp only [writeSize, run_bind, run_act]
  rfl

section

variable {resolver : Resolver} {expansion : Expansion names} {expanding : Run.Expansion names}

theorem run_leaf (same : Agrees resolver expansion expanding) (node : Node) (content : Leaf) :
    (leaf expansion node content).run resolver =
      Run.renderLeaf resolver expanding (siteOf node) content := by
  cases content with
  | literal bytes => exact run_act resolver node _
  | echo name encoding default => exact run_echo same node name encoding default
  | assign name value =>
    simp only [leaf, run_bind, run_act]
    rfl
  | inclusion target onError store stub => exact run_inclusion same node target onError store stub
  | configure errorMessage missingMessage sizeFormat timeFormat =>
    exact run_configure resolver node errorMessage missingMessage sizeFormat timeFormat
  | lastModified target =>
    exact run_describe resolver node target (run_write_modified resolver node)
  | fileSize target => exact run_describe resolver node target (run_write_size resolver node)
  | listVariables =>
    simp only [leaf, run_bind, emitText, run_act]
    rfl
  | comment => rfl
  | unknown name => rfl

mutual

theorem run_all (same : Agrees resolver expansion expanding) :
    (nodes : List Node) → (within : Node.listBlockNames nodes ⊆ names) →
    (all expansion nodes within).run resolver = Run.renderAll resolver expanding nodes within
  | [], _ => by
    simp only [all, Run.renderAll]
    rfl
  | node :: rest, within => by
    simp only [all, Run.renderAll, run_bind, run_single same node, run_all same rest]

theorem run_single (same : Agrees resolver expansion expanding) :
    (node : Node) → (within : node.blockNames ⊆ names) →
    (single expansion node within).run resolver = Run.renderNode resolver expanding node within
  | .leaf span content, _ => by
    simp only [single, Run.renderNode]
    exact run_leaf same (.leaf span content) content
  | .conditional span condition body rest, within => by
    simp only [single, Run.renderNode, run_bind, run_act]
    apply bind_congr
    intro holds
    cases holds with
    | true => exact run_all same body _
    | false => exact run_branches same _ rest _
  | .block span name body, within => by
    simp only [single, Run.renderNode]
    exact run_act resolver _ _

theorem run_branches (same : Agrees resolver expansion expanding) (node : Node) :
    (rest : Branches) → (within : rest.blockNames ⊆ names) →
    (branches expansion node rest within).run resolver =
      Run.renderBranches resolver expanding rest within
  | .done, _ => by
    simp only [branches, Run.renderBranches]
    rfl
  | .otherwise body, within => by
    simp only [branches, Run.renderBranches]
    exact run_all same body within
  | .elif condition body rest, within => by
    simp only [branches, Run.renderBranches, run_bind, run_act]
    apply bind_congr
    intro holds
    cases holds with
    | true => exact run_all same body _
    | false => exact run_branches same node rest _

end

end

theorem run_expand (chain : List String) (node : Node) (name : String) :
    (expand chain node name : Plan names (Option Bytes)).run resolver =
      Run.expand resolver chain (siteOf node) name := by
  rw [expand, Run.expand]
  simp only [run_bind, run_act]
  apply bind_congr
  intro found
  cases found with
  | none => rfl
  | some block =>
    by_cases held : block.name ∈ chain
    · simp only [held, dif_pos, run_bind, run_act]
      rfl
    · simp only [held, dif_neg, not_false_eq_true]
      have fewer : free names (block.name :: chain) < free names chain :=
        free_cons_lt block.name_mem held
      -- deeper in the chain there are fewer names left, which carries the recursion
      show Run.capture ((all (expand (block.name :: chain)) block.body _).run resolver) >>= _ = _
      rw [run_all (fun node name => run_expand (block.name :: chain) node name)]
      rfl
termination_by free names chain
decreasing_by exact fewer

/-- Rendering a tree is carrying out its plan. -/
theorem run_of_tree (nodes : List Node) (within : Node.listBlockNames nodes ⊆ names) :
    (ofTree nodes within).run resolver =
      Run.renderAll resolver (Run.expand resolver []) nodes within :=
  run_all (run_expand resolver []) nodes within

end

end ServerIncludes.Plans
