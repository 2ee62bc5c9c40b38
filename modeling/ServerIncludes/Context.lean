import ServerIncludes.Context.Variables
import ServerIncludes.Settings
import ServerIncludes.Template

/-!
What a document is evaluated against: variables, settings, the clock, and a source of values for
names that are not otherwise known. A name is looked up in that order: variables, the dates, then
the source.

The clock of a context stands still, so all dates of an evaluation are of one instant. A clock that
runs on, so that each look-up of a date finds an instant of its own, is not described here.
-/

namespace ServerIncludes

structure Context where
  bindings : Variables
  /-- What the settings are at the start of a run. -/
  defaults : Settings
  settings : Settings
  /-- Asked for names that are neither set nor dates. -/
  fallback : Option (String → Option String)
  /-- What the clock shows, at every look-up. -/
  now : Instant
  /-- How far local clocks are ahead of universal time at an instant. -/
  localOffset : Instant → Offset

/-- What asking a context leaves behind: a name that its fallback source was asked for, or the format
in force where a time was to be written in it and cannot be. In the second case whoever asks is given
no answer and does not go on; what is told of an evaluation from there on is of no account. -/
inductive Lookup where
  | fallback (name : String)
  | unwritable (format : String)
  deriving DecidableEq, Repr

def Lookup.unwritable? : Lookup → Option String
  | fallback _ => none
  | unwritable format => some format

namespace Context

/-- A context without variables and with the given settings. -/
def ofSettings (settings : Settings) : Context :=
  ⟨Variables.empty, settings, settings, none, ⟨0, 0⟩, fun _ => .zero⟩

def set (context : Context) (name value : String) : Context :=
  { context with bindings := context.bindings.set name value }

def erase (context : Context) (name : String) : Context :=
  { context with bindings := context.bindings.erase name }

/-- The zone in which the date is shown that a name stands for. -/
def zone? (context : Context) (name : String) : Option Zone :=
  if name = "DATE_LOCAL" ∨ name = "date_local" then
    some (.shifted (context.localOffset context.now))
  else if name = "DATE_GMT" ∨ name = "date_gmt" then some .universal
  else none

/-- A time in the format in force, and what writing it leaves behind. The text of a time that cannot be
written is not for use. -/
def timed (context : Context) (zone : Zone) (instant : Instant) : String × List Lookup :=
  match context.settings.writeTime zone instant with
  | some text => (text, [])
  | none => ("", [.unwritable context.settings.timeFormat])

/-- The date that a name stands for. -/
def date? (context : Context) (name : String) : Option String :=
  (context.zone? name).map fun zone => (context.timed zone context.now).1

/-- The value of a name. -/
def get? (context : Context) (name : String) : Option String :=
  match context.bindings.get? name with
  | some value => some value
  | none =>
    match context.date? name with
    | some value => some value
    | none => context.fallback.bind (· name)

/-- What looking up a name leaves behind. -/
def asked (context : Context) (name : String) : List Lookup :=
  if (context.bindings.get? name).isSome then []
  else
    match context.zone? name with
    | some zone => (context.timed zone context.now).2
    | none => if context.fallback.isSome then [.fallback name] else []

/-- A template filled in. -/
def substitute (context : Context) (template : Template) : String := template.render context.get?

/-- What filling in a template leaves behind. -/
def askedBy (context : Context) (template : Template) : List Lookup :=
  template.markers.flatMap context.asked

/-- Undoes all changes of settings. -/
def resetSettings (context : Context) : Context := { context with settings := context.defaults }

end Context

end ServerIncludes
