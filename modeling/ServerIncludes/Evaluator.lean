import ServerIncludes.Document.Assembly
import ServerIncludes.Evaluation.Render

/-!
Evaluators render trees and settle conditions one after another in a common context. Blocks that one
tree defines can be called for by later ones. Evaluating a single tree starts from the settings that
the context has by default.
-/

namespace ServerIncludes

/-- An evaluation that has come to rest between two trees. `names` are those of all blocks in the
trees rendered so far. -/
structure Evaluator where
  names : List String
  state : EvalState names
  log : Log

/-- What an evaluation yields in the end. -/
structure Report where
  output : Bytes
  faults : List Fault
  context : Context

namespace Evaluator

def ofContext (context : Context) : Evaluator := ⟨[], ⟨context, [], []⟩, .empty⟩

def context (evaluator : Evaluator) : Context := evaluator.state.context

/-- Takes a step in an evaluation and adds what it left in the log. -/
def advance (evaluator : Evaluator) (step : Run evaluator.names α) :
    Except Abort α × Evaluator :=
  let outcome := step evaluator.state
  (outcome.result, ⟨evaluator.names, outcome.state, evaluator.log ++ outcome.log⟩)

/-- The same evaluator, ready for blocks of more names. -/
def widen (evaluator : Evaluator) (more : List String) : Evaluator :=
  ⟨evaluator.names ++ more, evaluator.state.widen (List.subset_append_left _ _), evaluator.log⟩

/-- Renders a tree. -/
def render (resolver : Resolver) (evaluator : Evaluator) (nodes : List Node) :
    Except Abort Unit × Evaluator :=
  (evaluator.widen (Node.listBlockNames nodes)).advance
    (Run.renderAll resolver (Run.expand resolver []) nodes (List.subset_append_right _ _))

/-- Settles a condition. -/
def truth (evaluator : Evaluator) (condition : Condition) : Bool × Evaluator :=
  let answer := condition.truth evaluator.context
  (answer.value, { evaluator with
    state := { evaluator.state with context := answer.context }
    log := evaluator.log ++ { Log.empty with lookups := answer.lookups } })

def report (evaluator : Evaluator) : Report :=
  ⟨evaluator.log.output, evaluator.log.faults, evaluator.context⟩

end Evaluator

/-- Evaluates a tree. Gives the report, or the fatal answer that ended the evaluation, and in
either case the log. Where the log tells of a time that could not be written, the evaluation has come
to no end of its own, and `conclusion` says what becomes of it. -/
def evaluate (resolver : Resolver) (context : Context) (nodes : List Node) :
    Except Abort Report × Log :=
  let (result, evaluator) := (Evaluator.ofContext context.resetSettings).render resolver nodes
  (result.map fun _ => evaluator.report, evaluator.log)

/-- How an evaluation ends. -/
inductive Conclusion where
  | finished (report : Report)
  | aborted (abort : Abort)
  /-- A time was to be written in a format in which that cannot be done. There is no report then, nor
  an answer that ended the evaluation. -/
  | brokenOff (format : String)

namespace Conclusion

def ofResult : Except Abort Report → Conclusion
  | .ok report => finished report
  | .error abort => aborted abort

/-- The first time that cannot be written breaks an evaluation off, whatever its result would be. -/
def ofEvaluated (result : Except Abort Report) (log : Log) : Conclusion :=
  match log.brokenOff? with
  | some format => brokenOff format
  | none => ofResult result

theorem ofEvaluated_eq_brokenOff :
    ofEvaluated result log = brokenOff format ↔ log.brokenOff? = some format := by
  unfold ofEvaluated
  cases log.brokenOff? with
  | some other => simp
  | none => cases result <;> simp [ofResult]

theorem ofEvaluated_of_none (unbroken : Log.brokenOff? log = none) :
    ofEvaluated result log = ofResult result := by
  rw [ofEvaluated, unbroken]

end Conclusion

/-- How the evaluation of a tree ends. -/
def conclusion (resolver : Resolver) (context : Context) (nodes : List Node) : Conclusion :=
  let (result, log) := evaluate resolver context nodes
  .ofEvaluated result log

theorem conclusion_broken_off : conclusion resolver context nodes = .brokenOff format ↔
    (evaluate resolver context nodes).2.brokenOff? = some format :=
  Conclusion.ofEvaluated_eq_brokenOff

/-- An evaluation in which all times can be written ends with its result. -/
theorem conclusion_of_unbroken (unbroken : (evaluate resolver context nodes).2.brokenOff? = none) :
    conclusion resolver context nodes = .ofResult (evaluate resolver context nodes).1 :=
  Conclusion.ofEvaluated_of_none unbroken

end ServerIncludes
