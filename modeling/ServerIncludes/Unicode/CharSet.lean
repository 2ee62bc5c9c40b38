/-!
Sets of characters kept as ranges of code points. Ranges are inclusive, increasing and never
touch, so a set has one form and complements are read off the gaps between its ranges.
-/

namespace ServerIncludes

/-- A set of characters, as inclusive ranges of code points in increasing order. -/
structure CharSet where
  ranges : List (Nat × Nat)
  deriving DecidableEq, Inhabited

namespace CharSet

/-- The greatest code point. -/
def last : Nat := 0x10FFFF

/-- Joins ranges that overlap or touch, given in the order of their first members; `low` and
`high` bound the range being built. -/
def joinFrom (low high : Nat) : List (Nat × Nat) → List (Nat × Nat)
  | [] => [(low, high)]
  | (first, final) :: rest =>
    if first ≤ high + 1 then joinFrom low (max high final) rest
    else (low, high) :: joinFrom first final rest

/-- The set of all members of some ranges, given in any order. -/
def ofRanges (pairs : List (Nat × Nat)) : CharSet :=
  match pairs.mergeSort (fun a b => a.1 ≤ b.1) with
  | [] => ⟨[]⟩
  | (low, high) :: rest => ⟨joinFrom low high rest⟩

/-- The value of a hexadecimal digit that is written with a capital letter. -/
def digitValue (c : Char) : Nat := if c.isDigit then c.toNat - 48 else c.toNat - 55

/-- Reads ranges such as "41-5A 61-7A AA": code points in hexadecimal, the ends of a range joined
by a hyphen. `low` is the start of the range being read and `value` the number being read. -/
def readRanges (low : Option Nat) (value : Nat) : List Char → List (Nat × Nat)
  | [] => [(low.getD value, value)]
  | c :: rest =>
    if c = ' ' then (low.getD value, value) :: readRanges none 0 rest
    else if c = '-' then readRanges (some value) 0 rest
    else readRanges low (value * 16 + digitValue c) rest

/-- The set that increasing ranges spell, line by line. -/
def ofText (lines : List String) : CharSet :=
  ⟨lines.flatMap fun line => readRanges none 0 line.toList⟩

def empty : CharSet := ⟨[]⟩

def range (low high : Nat) : CharSet := ⟨[(low, high)]⟩

def singleton (c : Char) : CharSet := range c.toNat c.toNat

/-- Every character. -/
def all : CharSet := range 0 last

/-- The ranges between those of an increasing list, from `start` on. -/
def gapsFrom (start : Nat) : List (Nat × Nat) → List (Nat × Nat)
  | [] => if start ≤ last then [(start, last)] else []
  | (low, high) :: rest =>
    if start < low then (start, low - 1) :: gapsFrom (high + 1) rest else gapsFrom (high + 1) rest

def complement (s : CharSet) : CharSet := ⟨gapsFrom 0 s.ranges⟩

def union (s t : CharSet) : CharSet := ofRanges (s.ranges ++ t.ranges)

def inter (s t : CharSet) : CharSet := (s.complement.union t.complement).complement

/-- The members of the first set that the second lacks. -/
def diff (s t : CharSet) : CharSet := (s.complement.union t).complement

/-- The members of exactly one of two sets. -/
def symmDiff (s t : CharSet) : CharSet := (s.diff t).union (t.diff s)

def isEmpty (s : CharSet) : Bool := s.ranges.isEmpty

def containsCode (s : CharSet) (code : Nat) : Bool :=
  s.ranges.any fun (low, high) => low ≤ code && code ≤ high

def contains (s : CharSet) (c : Char) : Bool := s.containsCode c.toNat

end CharSet

end ServerIncludes
