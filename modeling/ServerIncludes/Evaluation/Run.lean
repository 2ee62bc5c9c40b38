import ServerIncludes.Document.Node
import ServerIncludes.Evaluation.Log
import ServerIncludes.Evaluation.Query

/-!
The steps that evaluations are made of. A step changes a state, leaves a log, and may end the
evaluation; what came before it stays in either case. The state holds the context, the questions the
resolver was asked and the blocks that have been defined; all of these, and all blocks defined inside
them, have names from a fixed list, which is what bounds the nesting of blocks within blocks.
-/

namespace ServerIncludes

mutual

/-- The names of the blocks defined by a node or inside it. -/
def Node.blockNames : Node → List String
  | .leaf _ _ => []
  | .conditional _ _ body rest => Node.listBlockNames body ++ rest.blockNames
  | .block _ name body => name :: Node.listBlockNames body

def Branches.blockNames : Branches → List String
  | .done => []
  | .otherwise body => Node.listBlockNames body
  | .elif _ body rest => Node.listBlockNames body ++ rest.blockNames

/-- The names of the blocks defined by some nodes or inside them. -/
def Node.listBlockNames : List Node → List String
  | [] => []
  | node :: rest => node.blockNames ++ Node.listBlockNames rest

end

/-- A block that has been defined, with names from a list. -/
structure DefinedBlock (names : List String) where
  name : String
  body : List Node
  name_mem : name ∈ names
  body_names : Node.listBlockNames body ⊆ names

/-- What an evaluation goes on with: the context, the blocks with the one defined last first, and the
questions that the resolver was asked. -/
structure EvalState (names : List String) where
  context : Context
  blocks : List (DefinedBlock names)
  history : List ResolverCall

namespace EvalState

/-- The block that is defined under a name. -/
def block? (state : EvalState names) (name : String) : Option (DefinedBlock names) :=
  state.blocks.find? fun block => block.name == name

/-- The same state, with names from a longer list. -/
def widen (state : EvalState names) (within : names ⊆ wider) : EvalState wider :=
  { state with blocks := state.blocks.map fun block =>
      ⟨block.name, block.body, within block.name_mem,
        fun _ member => within (block.body_names member)⟩ }

end EvalState

/-- How a step ended, the state after it, and what it left in the log. -/
structure Outcome (names : List String) (α : Type) where
  result : Except Abort α
  state : EvalState names
  log : Log

/-- A step of an evaluation. -/
def Run (names : List String) (α : Type) : Type := EvalState names → Outcome names α

namespace Run

variable {names : List String} {α β : Type}

def run (step : Run names α) (state : EvalState names) : Outcome names α := step state

/-- Takes one step and, unless it ended the evaluation, another that depends on its result. -/
def andThen (first : Run names α) (next : α → Run names β) : Run names β := fun state =>
  let outcome := first state
  match outcome.result with
  | .error abort => ⟨.error abort, outcome.state, outcome.log⟩
  | .ok value =>
    let later := next value outcome.state
    ⟨later.result, later.state, outcome.log ++ later.log⟩

instance : Monad (Run names) where
  pure value := fun state => ⟨.ok value, state, .empty⟩
  bind := andThen

/-- Asks the context a question. -/
def ask (query : Query α) : Run names α := fun state =>
  let answer := query state.context
  ⟨.ok answer.value, { state with context := answer.context },
    { Log.empty with lookups := answer.lookups }⟩

/-- Reads something off the context. -/
def look (read : Context → α) : Run names α := fun state =>
  ⟨.ok (read state.context), state, .empty⟩

/-- Changes the context. -/
def change (update : Context → Context) : Run names Unit := fun state =>
  ⟨.ok (), { state with context := update state.context }, .empty⟩

/-- Writes octets to the output. -/
def emit (bytes : Bytes) : Run names Unit := fun state =>
  ⟨.ok (), state, { Log.empty with output := bytes }⟩

/-- Records a fault and goes on. -/
def record (site : Site) (cause : FaultCause) : Run names Unit := fun state =>
  ⟨.ok (), state, { Log.empty with faults := [⟨site, cause⟩] }⟩

/-- Puts a question to a resolver. A fatal answer ends the evaluation; any other failure is
recorded. -/
def consult (call : ResolverCall) (answer : List ResolverCall → Except ResolveError α) (site : Site) :
    Run names (Option α) := fun state =>
  let asked := { state with history := state.history ++ [call] }
  match answer state.history with
  | .ok value => ⟨.ok (some value), asked, { Log.empty with calls := [call] }⟩
  | .error error =>
    if error.isFatal then ⟨.error ⟨site, error⟩, asked, { Log.empty with calls := [call] }⟩
    else
      ⟨.ok none, asked, { Log.empty with calls := [call], faults := [⟨site, .unresolved error⟩] }⟩

/-- Asks for the content of a target. -/
def resolve (resolver : Resolver) (site : Site) (target : Target String) :
    Run names (Option Bytes) :=
  consult (.resolve target) (resolver.content · target) site

/-- Asks what is known about a target. -/
def metadata (resolver : Resolver) (site : Site) (target : Target String) :
    Run names (Option Metadata) :=
  consult (.metadata target) (resolver.facts · target) site

/-- Defines a block, in place of any of the same name. -/
def define (block : DefinedBlock names) : Run names Unit := fun state =>
  ⟨.ok (), { state with
    blocks := block :: state.blocks.filter fun held => held.name != block.name }, .empty⟩

/-- The block that is defined under a name. -/
def block? (name : String) : Run names (Option (DefinedBlock names)) := fun state =>
  ⟨.ok (state.block? name), state, .empty⟩

/-- Takes a step with an output of its own, which is its result. If the step ends the evaluation,
that output is lost. -/
def capture (step : Run names Unit) : Run names Bytes := fun state =>
  let outcome := step state
  ⟨outcome.result.map fun _ => outcome.log.output, outcome.state, outcome.log.silent⟩

end Run

end ServerIncludes
