/-!
Octets and the texts they spell. Reading octets as text is strict, where only well-formed UTF-8
has a text, or lenient, where each ill-formed part becomes one replacement character.
-/

namespace ServerIncludes

/-- Octets of a document, of an included file or of rendered output. -/
abbrev Bytes := List UInt8

namespace Bytes

/-- The UTF-8 form of a sequence of characters. -/
def ofChars (text : List Char) : Bytes := text.flatMap String.utf8EncodeChar

/-- The UTF-8 form of a text. -/
def ofText (text : String) : Bytes := ofChars text.toList

/-- The text that some octets are the UTF-8 form of, if there is one. -/
def text? (bytes : Bytes) : Option String := String.fromUTF8? bytes.toByteArray

/-- What an ill-formed part is read as. -/
def replacement : Char := Char.ofNat 0xFFFD

/-- For the first octet of a longer form: the bounds of the octet after it, the number of octets
that must follow, and the part of the code point that it carries. -/
def leading (first : UInt8) : Option (UInt8 × UInt8 × Nat × Nat) :=
  if 0xC2 ≤ first ∧ first ≤ 0xDF then some (0x80, 0xBF, 1, first.toNat - 0xC0)
  else if first = 0xE0 then some (0xA0, 0xBF, 2, 0)
  else if first = 0xED then some (0x80, 0x9F, 2, 0xD)
  else if 0xE1 ≤ first ∧ first ≤ 0xEF then some (0x80, 0xBF, 2, first.toNat - 0xE0)
  else if first = 0xF0 then some (0x90, 0xBF, 3, 0)
  else if first = 0xF4 then some (0x80, 0x8F, 3, 4)
  else if 0xF1 ≤ first ∧ first ≤ 0xF3 then some (0x80, 0xBF, 3, first.toNat - 0xF0)
  else none

/-- Reads `missing` more octets of a character whose code point so far is `code`. Gives the
character, or the replacement when an octet does not fit, and the number of octets read. -/
def continued (low high : UInt8) (missing code taken : Nat) : Bytes → Char × Nat
  | [] => (if missing = 0 then Char.ofNat code else replacement, taken)
  | next :: rest =>
    match missing with
    | 0 => (Char.ofNat code, taken)
    | missing + 1 =>
      if low ≤ next ∧ next ≤ high then
        continued 0x80 0xBF missing (code * 64 + (next.toNat - 0x80)) (taken + 1) rest
      else (replacement, taken)

/-- The character that some octets begin with, and the number of octets after the first that it
takes. An ill-formed beginning is taken as far as it could have been continued. -/
def firstChar (first : UInt8) (rest : Bytes) : Char × Nat :=
  if first < 0x80 then (Char.ofNat first.toNat, 0)
  else match leading first with
    | none => (replacement, 0)
    | some (low, high, missing, code) => continued low high missing code 0 rest

/-- Reads octets leniently as characters. -/
def lossyChars : Bytes → List Char
  | [] => []
  | first :: rest => (firstChar first rest).1 :: lossyChars (rest.drop (firstChar first rest).2)
termination_by bytes => bytes.length
decreasing_by simp only [List.length_drop, List.length_cons]; omega

/-- Reads octets leniently as a text. -/
def textLossy (bytes : Bytes) : String := String.ofList (lossyChars bytes)

end Bytes

/-- The number of octets in the UTF-8 form of a sequence of characters. -/
def utf8Length : List Char → Nat
  | [] => 0
  | c :: rest => c.utf8Size + utf8Length rest

end ServerIncludes
