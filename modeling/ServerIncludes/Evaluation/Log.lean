import ServerIncludes.Context
import ServerIncludes.Resolver

/-!
What an evaluation leaves behind besides its final context: output, the faults it went on after,
and the questions it asked, each in the order in which it came about.
-/

namespace ServerIncludes

/-- Why a directive did less than it should. -/
inductive FaultCause where
  | undefinedVariable (name : String)
  | unresolved (error : ResolveError)
  /-- The stub of an inclusion is not a block. -/
  | unknownBlock (name : String)
  /-- A block was reached again while it was being rendered. -/
  | recursiveBlock (name : String)
  deriving DecidableEq, Repr

def FaultCause.message : FaultCause → String
  | undefinedVariable name => "variable `" ++ name ++ "` is not defined"
  | unresolved error => error.message
  | unknownBlock name => "stub block `" ++ name ++ "` is not defined"
  | recursiveBlock name => "block `" ++ name ++ "` is already being rendered"

/-- The tag that an evaluation is at: the octet it starts at and the name of its directive. -/
structure Site where
  offset : Nat
  directive : String
  deriving DecidableEq, Repr

/-- A fault that an evaluation went on after. -/
structure Fault where
  site : Site
  cause : FaultCause
  deriving DecidableEq, Repr

def Fault.message (fault : Fault) : String :=
  "`" ++ fault.site.directive ++ "` at byte " ++ toString fault.site.offset ++ ": " ++
    fault.cause.message

/-- A fatal answer of a resolver, which ended an evaluation. -/
structure Abort where
  site : Site
  error : ResolveError
  deriving DecidableEq, Repr

def Abort.message (abort : Abort) : String :=
  "fatal resolver failure in `" ++ abort.site.directive ++ "` at byte " ++
    toString abort.site.offset ++ ": " ++ abort.error.message

/-- Output, faults, calls of the resolver, and what asking the context left behind. -/
structure Log where
  output : Bytes
  faults : List Fault
  calls : List ResolverCall
  lookups : List Lookup
  deriving DecidableEq, Repr

namespace Log

def empty : Log := ⟨[], [], [], []⟩

/-- What came about first and what came about after it. -/
def append (first second : Log) : Log :=
  ⟨first.output ++ second.output, first.faults ++ second.faults, first.calls ++ second.calls,
    first.lookups ++ second.lookups⟩

instance : Append Log := ⟨append⟩

theorem append_def (first second : Log) : first ++ second = append first second := rfl

@[simp] theorem empty_append (log : Log) : empty ++ log = log := rfl

@[simp] theorem append_empty (log : Log) : log ++ empty = log := by
  simp [append_def, append, empty]

theorem append_assoc (first second third : Log) :
    first ++ second ++ third = first ++ (second ++ third) := by
  simp [append_def, append]

/-- A log without its output. -/
def silent (log : Log) : Log := { log with output := [] }

/-- The format of the first time that was to be written and could not be. Nothing that a log tells of
what came after it has happened. -/
def brokenOff? (log : Log) : Option String :=
  log.lookups.findSome? Lookup.unwritable?

end Log

end ServerIncludes
