import ServerIncludes.Condition
import ServerIncludes.Context

/-!
What conditions mean. A condition has a truth and a value; finding out either may bind variables,
because a pattern that is found binds the texts of its groups, and may ask the fallback source.
-/

namespace ServerIncludes

/-- What a question to a context yields: an answer, the context after it, and what asking left
behind. -/
structure Answer (α : Type) where
  value : α
  context : Context
  lookups : List Lookup

/-- A question to a context that may bind variables. -/
def Query (α : Type) : Type := Context → Answer α

namespace Query

def run (query : Query α) (context : Context) : Answer α := query context

/-- Asks one question and, in the context after it, another that depends on the answer. -/
def andThen (first : Query α) (next : α → Query β) : Query β := fun context =>
  let answer := first context
  let later := next answer.value answer.context
  ⟨later.value, later.context, answer.lookups ++ later.lookups⟩

instance : Monad Query where
  pure value := fun context => ⟨value, context, []⟩
  bind := andThen

/-- The value of a variable, empty if it has none. -/
def get? (name : String) : Query (Option String) := fun context =>
  ⟨context.get? name, context, context.asked name⟩

/-- A template filled in. -/
def substitute (template : Template) : Query String := fun context =>
  ⟨context.substitute template, context, context.askedBy template⟩

/-- A time in the format in force. -/
def writeTime (zone : Zone) (instant : Instant) : Query String := fun context =>
  ⟨(context.timed zone instant).1, context, (context.timed zone instant).2⟩

/-- Gives variables their values. -/
def bindAll (pairs : List (String × String)) : Query Unit := fun context =>
  ⟨(), { context with bindings := context.bindings.setAll pairs }, []⟩

end Query

/-- What a condition means: whether it holds, and its value where it is compared. -/
structure Meaning where
  truth : Query Bool
  value : Query String

namespace Meaning

/-- A value holds unless it is empty. -/
def ofValue (value : Query String) : Meaning :=
  ⟨do return !(← value).isEmpty, value⟩

/-- The value of what holds is one, and that of what does not is empty. -/
def ofTruth (truth : Query Bool) : Meaning :=
  ⟨truth, do if ← truth then return "1" else return ""⟩

end Meaning

namespace Condition

/-- Looks for a pattern in a value. If it is found, the texts of its groups are bound. -/
def find (pattern : Pattern) (subject : String) : Query Bool :=
  match pattern.search subject with
  | none => pure false
  | some captures => do
    Query.bindAll captures.bindings
    return true

/-- The meaning of a condition. Operands are taken from left to right, and the right operand of a
logical operator only if the left one leaves the outcome open. -/
def meaning : Condition → Meaning
  | literal text => .ofValue (Query.substitute text)
  | reference name => .ofValue do return (← Query.get? name).getD ""
  | compare comparison left right => .ofTruth do
      let a ← left.meaning.value
      let b ← right.meaning.value
      return comparison.holds a b
  | search expected subject pattern => .ofTruth do
      let text ← subject.meaning.value
      return (← find pattern text) == expected
  | not inner => .ofTruth do return !(← inner.meaning.truth)
  | and left right => .ofTruth do
      if ← left.meaning.truth then right.meaning.truth else return false
  | or left right => .ofTruth do
      if ← left.meaning.truth then return true else right.meaning.truth
  | group inner => inner.meaning

/-- Whether a condition holds. -/
def truth (condition : Condition) : Query Bool := condition.meaning.truth

end Condition

end ServerIncludes
