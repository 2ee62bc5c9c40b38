/-!
Ranges of characters as octets. A range is cut into parts so that the UTF-8 forms of the
characters of a part are all the octet strings whose octets lie in given ranges, place by place.
-/

namespace ServerIncludes

/-- A range of octets for each place of an octet string. -/
abbrev OctetPath := List (Nat × Nat)

namespace OctetPath

/-- The UTF-8 form of a code point. -/
def octets (code : Nat) : List Nat :=
  if code < 0x80 then [code]
  else if code < 0x800 then [0xC0 + code / 64, 0x80 + code % 64]
  else if code < 0x10000 then [0xE0 + code / 4096, 0x80 + code / 64 % 64, 0x80 + code % 64]
  else [0xF0 + code / 262144, 0x80 + code / 4096 % 64, 0x80 + code / 64 % 64, 0x80 + code % 64]

/-- The last code point of the first part of a range, if the range must be cut: where the number of
octets changes, or where one octet changes before those after it have taken all their values. -/
def cut? (low high : Nat) : Option Nat :=
  match [0x7F, 0x7FF, 0xFFFF].find? fun bound => low ≤ bound && bound < high with
  | some bound => some bound
  | none =>
    if high < 0x80 then none
    else [64, 4096, 262144].findSome? fun unit =>
      if low / unit = high / unit then none
      else if low % unit ≠ 0 then some (low / unit * unit + unit - 1)
      else if high % unit ≠ unit - 1 then some (high / unit * unit - 1)
      else none

/-- The parts of a range of code points in increasing order. Surrogates have no UTF-8 form. -/
def ofRange (low high : Nat) : List OctetPath :=
  if low ≤ high then
    if low < 0xE000 ∧ 0xD7FF < high then
      ofRange low 0xD7FF ++ ofRange 0xE000 high
    else
      match cut? low high with
      | none => [(octets low).zip (octets high)]
      | some last =>
        if low ≤ last ∧ last < high then ofRange low last ++ ofRange (last + 1) high
        else [(octets low).zip (octets high)]
  else []
termination_by high + 1 - low
decreasing_by all_goals omega

end OctetPath

end ServerIncludes
