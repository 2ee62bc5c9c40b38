import ServerIncludes.Evaluator

/-! Calls that one evaluator serves one after another: trees to render and conditions to settle. What
a call leaves is what the next one starts from, also if a fatal answer has ended it. -/
namespace ServerIncludes.Sessions

/-- What an evaluator is called for. -/
inductive Call where
  | render (nodes : List Node)
  | settle (condition : Condition)

/-- What comes of a call. -/
inductive Ending where
  | rendered (result : Except Abort Unit)
  | settled (holds : Bool)

/-- The names of the blocks that a call can define. -/
def Call.blockNames : Call → List String
  | .render nodes => Node.listBlockNames nodes
  | .settle _ => []

variable (resolver : Resolver)

def serve (evaluator : Evaluator) : Call → Ending × Evaluator
  | .render nodes =>
    let (result, next) := evaluator.render resolver nodes
    (.rendered result, next)
  | .settle condition =>
    let (holds, next) := evaluator.truth condition
    (.settled holds, next)

/-- Serves calls in order. Gives what comes of each, and the evaluator as the last one leaves it. -/
def serveAll (evaluator : Evaluator) : List Call → List Ending × Evaluator
  | [] => ([], evaluator)
  | call :: later =>
    let (ending, next) := serve resolver evaluator call
    let (endings, last) := serveAll next later
    (ending :: endings, last)

end ServerIncludes.Sessions
