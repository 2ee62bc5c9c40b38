/-!
File sizes as text: all digits in groups of three, or at most four characters with a unit, where a
unit is 1024 of the one below it.
-/

namespace ServerIncludes

/-- How a file size is written. -/
inductive SizeFormat where
  | bytes
  | abbreviated
  deriving DecidableEq, Repr, Inhabited

namespace SizeFormat

def ofName? (name : String) : Option SizeFormat :=
  if name = "bytes" then some .bytes
  else if name = "abbrev" then some .abbreviated
  else none

def name : SizeFormat → String
  | .bytes => "bytes"
  | .abbreviated => "abbrev"

/-- Digits with a comma wherever a multiple of three digits is left. -/
def group : List Char → List Char
  | [] => []
  | [c] => [c]
  | c :: d :: rest =>
    if (rest.length + 1) % 3 = 0 then c :: ',' :: group (d :: rest) else c :: group (d :: rest)

/-- The letter of each power of 1024, from the first on. -/
def units : List Char := ['K', 'M', 'G', 'T', 'P', 'E']

/-- A quantity of `whole` units and `part` parts of 1024: one decimal below ten, else no decimals,
a half rounded up. -/
def withUnit (whole part : Nat) (unit : Char) : String :=
  if whole < 9 ∨ (whole = 9 ∧ part < 973) then
    let tenths := (part * 5 + 256) / 512
    if 10 ≤ tenths then toString (whole + 1) ++ ".0" ++ String.singleton unit
    else toString whole ++ "." ++ toString tenths ++ String.singleton unit
  else
    toString (if 512 ≤ part then whole + 1 else whole) ++ String.singleton unit

/-- Writes a number of the unit below the first one listed, in the first unit of which there are
fewer than 973. Beyond the greatest unit that one is kept. -/
def scale (amount : Nat) : List Char → String
  | [] => withUnit (amount / 1024) (amount % 1024) 'E'
  | unit :: larger =>
    if amount / 1024 < 973 then withUnit (amount / 1024) (amount % 1024) unit
    else scale (amount / 1024) larger

/-- A size as the format writes it. -/
def format (size : UInt64) : SizeFormat → String
  | .bytes => String.ofList (group (Nat.toDigits 10 size.toNat))
  | .abbreviated => if size.toNat < 973 then toString size.toNat else scale size.toNat units

end SizeFormat

end ServerIncludes
