import ServerIncludes.Time.Zone

/-!
Time formats: texts in which a percent sign starts a specifier. A format is read into items before
anything is written, so a format with an unknown specifier is refused as a whole. One specifier is
known but says only how a time is read from a text; in a format that has it, no time can be written.
-/

namespace ServerIncludes

/-- How a number is filled up on the left. -/
inductive Padding where
  | none
  | zeros
  | spaces
  deriving DecidableEq, Repr

/-- Numbers that can be asked for. -/
inductive TimeNumber where
  | year | century | yearOfCentury | weekYear | weekYearOfCentury
  | quarter | month | day | weekFromSunday | weekFromMonday | week
  | daysSinceSunday | dayOfWeek | dayOfYear
  | hour | hour12 | minute | second | nanosecond | timestamp
  deriving DecidableEq, Repr

/-- Everything else that can be asked for. -/
inductive TimePhrase where
  | monthName | monthAbbreviation | dayName | dayAbbreviation
  | lowerHalf | upperHalf
  /-- A fraction of a second with a point, as many digits as needed: none, three, six or nine. -/
  | fraction
  /-- A fraction cut off after so many digits, with a point or without. -/
  | digits (point : Bool) (count : Nat)
  | zone
  | offset | offsetWithColon | offsetWithSeconds | offsetHours
  /-- Date, time and offset, as timestamps in data formats are written. -/
  | full
  deriving DecidableEq, Repr

/-- A part of a time format. -/
inductive TimeItem where
  | char (c : Char)
  | number (field : TimeNumber) (padding : Padding)
  | phrase (phrase : TimePhrase)
  /-- An offset in any of its forms, which a time is read from but not written with. -/
  | anyOffset
  deriving DecidableEq, Repr

namespace TimeItem

/-- The number that a letter asks for, and how it is padded unless the format says otherwise. -/
def number? (c : Char) : Option (TimeNumber × Padding) :=
  if c = 'Y' then some (.year, .zeros)
  else if c = 'C' then some (.century, .zeros)
  else if c = 'y' then some (.yearOfCentury, .zeros)
  else if c = 'q' then some (.quarter, .none)
  else if c = 'm' then some (.month, .zeros)
  else if c = 'd' then some (.day, .zeros)
  else if c = 'e' then some (.day, .spaces)
  else if c = 'w' then some (.daysSinceSunday, .none)
  else if c = 'u' then some (.dayOfWeek, .none)
  else if c = 'U' then some (.weekFromSunday, .zeros)
  else if c = 'W' then some (.weekFromMonday, .zeros)
  else if c = 'G' then some (.weekYear, .zeros)
  else if c = 'g' then some (.weekYearOfCentury, .zeros)
  else if c = 'V' then some (.week, .zeros)
  else if c = 'j' then some (.dayOfYear, .zeros)
  else if c = 'H' then some (.hour, .zeros)
  else if c = 'k' then some (.hour, .spaces)
  else if c = 'I' then some (.hour12, .zeros)
  else if c = 'l' then some (.hour12, .spaces)
  else if c = 'M' then some (.minute, .zeros)
  else if c = 'S' then some (.second, .zeros)
  else if c = 'f' then some (.nanosecond, .zeros)
  else if c = 's' then some (.timestamp, .none)
  else none

def phrase? (c : Char) : Option TimePhrase :=
  if c = 'B' then some .monthName
  else if c = 'b' ∨ c = 'h' then some .monthAbbreviation
  else if c = 'A' then some .dayName
  else if c = 'a' then some .dayAbbreviation
  else if c = 'P' then some .lowerHalf
  else if c = 'p' then some .upperHalf
  else if c = 'Z' then some .zone
  else if c = 'z' then some .offset
  else if c = '+' then some .full
  else none

/-- Two numbers and more with characters between them. -/
def joined (separator : Char) : List TimeNumber → List TimeItem
  | [] => []
  | [field] => [.number field .zeros]
  | field :: rest => .number field .zeros :: .char separator :: joined separator rest

/-- What a letter stands for that is short for several specifiers. -/
def several? (c : Char) : Option (List TimeItem) :=
  if c = 'D' ∨ c = 'x' then some (joined '/' [.month, .day, .yearOfCentury])
  else if c = 'F' then some (joined '-' [.year, .month, .day])
  else if c = 'R' then some (joined ':' [.hour, .minute])
  else if c = 'T' ∨ c = 'X' then some (joined ':' [.hour, .minute, .second])
  else if c = 'r' then
    some (joined ':' [.hour12, .minute, .second] ++ [.char ' ', .phrase .upperHalf])
  else if c = 'v' then
    some [.number .day .spaces, .char '-', .phrase .monthAbbreviation, .char '-',
      .number .year .zeros]
  else if c = 'c' then
    some ([.phrase .dayAbbreviation, .char ' ', .phrase .monthAbbreviation, .char ' ',
      .number .day .spaces, .char ' '] ++ joined ':' [.hour, .minute, .second] ++
      [.char ' ', .number .year .zeros])
  else if c = 't' then some [.char '\t']
  else if c = 'n' then some [.char '\n']
  else if c = '%' then some [.char '%']
  else none

/-- A number whose padding the format chooses. -/
def padded? (c : Char) (padding : Padding) : Option (List TimeItem × Nat) :=
  (number? c).map fun entry => ([.number entry.1 padding], 2)

/-- The specifier after a percent sign, and the number of its characters. -/
def specifier? : List Char → Option (List TimeItem × Nat)
  | '-' :: c :: _ => padded? c .none
  | '0' :: c :: _ => padded? c .zeros
  | '_' :: c :: _ => padded? c .spaces
  | '#' :: 'z' :: _ => some ([.anyOffset], 2)
  | ':' :: 'z' :: _ => some ([.phrase .offsetWithColon], 2)
  | ':' :: ':' :: 'z' :: _ => some ([.phrase .offsetWithSeconds], 3)
  | ':' :: ':' :: ':' :: 'z' :: _ => some ([.phrase .offsetHours], 4)
  | '.' :: 'f' :: _ => some ([.phrase .fraction], 2)
  | '.' :: '3' :: 'f' :: _ => some ([.phrase (.digits true 3)], 3)
  | '.' :: '6' :: 'f' :: _ => some ([.phrase (.digits true 6)], 3)
  | '.' :: '9' :: 'f' :: _ => some ([.phrase (.digits true 9)], 3)
  | '3' :: 'f' :: _ => some ([.phrase (.digits false 3)], 2)
  | '6' :: 'f' :: _ => some ([.phrase (.digits false 6)], 2)
  | '9' :: 'f' :: _ => some ([.phrase (.digits false 9)], 2)
  | c :: _ =>
    match number? c with
    | some (field, padding) => some ([.number field padding], 1)
    | none =>
      match phrase? c with
      | some found => some ([.phrase found], 1)
      | none => (several? c).map fun items => (items, 1)
  | [] => none

end TimeItem

/-- A time format that has been read. -/
structure TimeFormat where
  items : List TimeItem
  deriving DecidableEq, Repr

namespace TimeFormat

/-- Reads the items of a format; nothing if a specifier is unknown. -/
def items? (text : List Char) : Option (List TimeItem) :=
  match text with
  | [] => some []
  | c :: rest =>
    if c = '%' then
      match TimeItem.specifier? rest with
      | none => none
      | some (items, length) => (items? (rest.drop length)).map (items ++ ·)
    else (items? rest).map (.char c :: ·)
termination_by text.length
decreasing_by all_goals simp only [List.length_drop, List.length_cons]; omega

/-- Reads a format. -/
def parse? (text : String) : Option TimeFormat := (items? text.toList).map fun items => ⟨items⟩

/-- True if every specifier of a format is known. -/
def isValid (text : String) : Bool := (parse? text).isSome

/-- The format that is used where none is set, or one that is not valid. -/
def fallback : String := "%A, %d-%b-%Y %H:%M:%S %Z"

def monthNames : List String :=
  ["January", "February", "March", "April", "May", "June", "July", "August", "September",
    "October", "November", "December"]

/-- The days of the week from Sunday on. -/
def dayNames : List String :=
  ["Sunday", "Monday", "Tuesday", "Wednesday", "Thursday", "Friday", "Saturday"]

/-- The first three letters of a name. -/
def abbreviate (name : String) : String := String.ofList (name.toList.take 3)

/-- Fills a number up to a width; zeros go after its sign, spaces before it. -/
def fill (width : Nat) (padding : Padding) (sign digits : String) : String :=
  let missing := width - (sign.length + digits.length)
  match padding with
  | .none => sign ++ digits
  | .zeros => sign ++ String.ofList (List.replicate missing '0') ++ digits
  | .spaces => String.ofList (List.replicate missing ' ') ++ sign ++ digits

/-- A number with its sign if it is negative. -/
def writeNumber (width : Nat) (padding : Padding) (n : Int) : String :=
  fill width padding (if n < 0 then "-" else "") (toString n.natAbs)

/-- A year: four digits, and a sign where these do not suffice. -/
def writeYear (padding : Padding) (year : Int) : String :=
  if 1000 ≤ year ∧ year ≤ 9999 then toString year.natAbs
  else if 0 ≤ year ∧ year ≤ 9999 then writeNumber 4 padding year
  else fill 5 padding (if year < 0 then "-" else "+") (toString year.natAbs)

/-- A number of two digits, taken modulo 256. Tens above nine are written as the characters that
follow the digit nine. -/
def writeTwo (padding : Padding) (n : Int) : String :=
  let n := (n % 256).toNat
  let ones := Char.ofNat (48 + n % 10)
  match n / 10, padding with
  | 0, .none => String.singleton ones
  | 0, .spaces => String.ofList [' ', ones]
  | tens, _ => String.ofList [Char.ofNat (48 + tens), ones]

/-- A number as an item asks for it. `shown` is the instant as clocks of the zone show it; seconds
since the start of 1970 are the same in all zones. -/
def writeField (instant shown : Instant) (padding : Padding) : TimeNumber → String
  | .year => writeYear padding shown.date.year
  | .century => writeTwo padding (shown.date.year / 100)
  | .yearOfCentury => writeTwo padding (shown.date.year % 100)
  | .weekYear => writeYear padding shown.weekYear
  | .weekYearOfCentury => writeTwo padding (shown.weekYear % 100)
  | .quarter => toString ((shown.date.month - 1) / 3 + 1)
  | .month => writeTwo padding shown.date.month
  | .day => writeTwo padding shown.date.day
  | .weekFromSunday => writeTwo padding (shown.weekOfYear shown.daysSinceSunday)
  | .weekFromMonday => writeTwo padding (shown.weekOfYear shown.daysSinceMonday)
  | .week => writeTwo padding shown.week
  | .daysSinceSunday => toString shown.daysSinceSunday
  | .dayOfWeek => toString (shown.daysSinceMonday + 1)
  | .dayOfYear => writeNumber 3 padding shown.date.ordinal
  | .hour => writeTwo padding shown.hour
  | .hour12 => writeTwo padding shown.hour12
  | .minute => writeTwo padding shown.minute
  | .second => writeTwo padding shown.second
  | .nanosecond => writeNumber 9 padding shown.fraction
  | .timestamp => writeNumber 9 padding instant.seconds

/-- The first digits of a fraction of a second. -/
def writeDigits (nanoseconds count : Nat) : String :=
  writeNumber count .zeros (nanoseconds / Nat.pow 10 (9 - count))

/-- A fraction of a second with a point, in groups of three digits as needed. -/
def writeFraction (nanoseconds : Nat) : String :=
  if nanoseconds = 0 then ""
  else if nanoseconds % 1000000 = 0 then "." ++ writeDigits nanoseconds 3
  else if nanoseconds % 1000 = 0 then "." ++ writeDigits nanoseconds 6
  else "." ++ writeDigits nanoseconds 9

/-- Date, time and offset in one. -/
def writeFull (zone : Zone) (shown : Instant) : String :=
  let year := shown.date.year
  let yearText :=
    if 0 ≤ year ∧ year ≤ 9999 then writeNumber 4 .zeros year
    else fill 5 .zeros (if year < 0 then "-" else "+") (toString year.natAbs)
  yearText ++ "-" ++ writeTwo .zeros shown.date.month ++ "-" ++
    writeTwo .zeros shown.date.day ++ "T" ++ writeTwo .zeros shown.hour ++ ":" ++
    writeTwo .zeros shown.minute ++ ":" ++ writeTwo .zeros shown.second ++
    writeFraction shown.fraction ++ zone.offset.toMinute ":"

/-- Text that an item asks for. -/
def writePhrase (zone : Zone) (shown : Instant) : TimePhrase → String
  | .monthName => monthNames.getD (shown.date.month - 1) ""
  | .monthAbbreviation => abbreviate (monthNames.getD (shown.date.month - 1) "")
  | .dayName => dayNames.getD shown.daysSinceSunday ""
  | .dayAbbreviation => abbreviate (dayNames.getD shown.daysSinceSunday "")
  | .lowerHalf => if shown.hour < 12 then "am" else "pm"
  | .upperHalf => if shown.hour < 12 then "AM" else "PM"
  | .fraction => writeFraction shown.fraction
  | .digits point count => (if point then "." else "") ++ writeDigits shown.fraction count
  | .zone => zone.name
  | .offset => zone.offset.toMinute ""
  | .offsetWithColon => zone.offset.toMinute ":"
  | .offsetWithSeconds => zone.offset.toSecond
  | .offsetHours => zone.offset.hours
  | .full => writeFull zone shown

/-- What an item writes; nothing if it cannot be written. -/
def writeItem (zone : Zone) (instant : Instant) : TimeItem → Option String
  | .char c => some (String.singleton c)
  | .number field padding => some (writeField instant (zone.shift instant) padding field)
  | .phrase phrase => some (writePhrase zone (zone.shift instant) phrase)
  | .anyOffset => none

/-- An instant as a format writes it for a zone; nothing if one of its items cannot be written. -/
def write (format : TimeFormat) (zone : Zone) (instant : Instant) : Option String :=
  (format.items.mapM (writeItem zone instant)).map String.join

/-- True if times can be written in a format. -/
def isWritable (format : TimeFormat) : Bool := format.items.all (· != .anyOffset)

theorem isSome_writeItem (zone : Zone) (instant : Instant) (item : TimeItem) :
    (writeItem zone instant item).isSome = (item != .anyOffset) := by
  cases item <;> rfl

/-- It depends on the format alone whether a time can be written. -/
theorem isSome_write (format : TimeFormat) (zone : Zone) (instant : Instant) :
    (format.write zone instant).isSome = format.isWritable := by
  rw [write, isWritable, Option.isSome_map]
  induction format.items with
  | nil => rfl
  | cons item rest ih =>
    rw [List.all_cons, ← isSome_writeItem zone instant, ← ih, List.mapM_cons]
    cases writeItem zone instant item with
    | none => rfl
    | some text => cases rest.mapM (writeItem zone instant) <;> rfl

/-- The format that a text spells, or the fallback if it spells none. -/
def ofText (text : String) : TimeFormat := ((parse? text).orElse fun _ => parse? fallback).getD ⟨[]⟩

end TimeFormat

end ServerIncludes
