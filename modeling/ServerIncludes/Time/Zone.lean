import ServerIncludes.Time.Calendar

/-!
Time zones: how far clocks in them are ahead of universal time, what they show, and what they are
called.
-/

namespace ServerIncludes

/-- How many seconds a clock is ahead of universal time: less than a day, either way. -/
structure Offset where
  seconds : Int
  bounded : seconds.natAbs < 86400
  deriving DecidableEq

namespace Offset

def zero : Offset := ⟨0, Nat.zero_lt_succ 86399⟩

def sign (offset : Offset) : String := if offset.seconds < 0 then "-" else "+"

def twoDigits (n : Nat) : String :=
  String.ofList [Nat.digitChar (n / 10), Nat.digitChar (n % 10)]

/-- The whole hours of an offset. -/
def hours (offset : Offset) : String :=
  offset.sign ++ twoDigits (offset.seconds.natAbs / 3600)

/-- An offset to the nearest minute, with a separator between hours and minutes. -/
def toMinute (offset : Offset) (separator : String) : String :=
  let minutes := (offset.seconds.natAbs + 30) / 60
  offset.sign ++ twoDigits (minutes / 60) ++ separator ++ twoDigits (minutes % 60)

def toSecond (offset : Offset) : String :=
  let seconds := offset.seconds.natAbs
  offset.sign ++ twoDigits (seconds / 3600) ++ ":" ++ twoDigits (seconds / 60 % 60) ++ ":" ++
    twoDigits (seconds % 60)

/-- An offset with its seconds only if there are some. -/
def name (offset : Offset) : String :=
  if offset.seconds.natAbs % 60 = 0 then offset.toMinute ":" else offset.toSecond

end Offset

/-- Where a time is shown. -/
inductive Zone where
  | universal
  /-- A zone that is known by its offset alone. -/
  | shifted (offset : Offset)
  deriving DecidableEq

namespace Zone

def offset : Zone → Offset
  | universal => .zero
  | shifted offset => offset

def name : Zone → String
  | universal => "UTC"
  | shifted offset => offset.name

/-- The instant at which clocks of universal time show what clocks of a zone show at another. -/
def shift (zone : Zone) (instant : Instant) : Instant :=
  { instant with seconds := instant.seconds + zone.offset.seconds }

end Zone

end ServerIncludes
