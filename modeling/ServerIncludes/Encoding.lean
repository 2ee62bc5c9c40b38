import ServerIncludes.Text.Utf8

/-!
Output encodings of variable values: as they are, with markup characters as entities, or with
percent escapes as in a link.
-/

namespace ServerIncludes

/-- How a value is written into the output. -/
inductive Encoding where
  | none
  | entity
  | url
  deriving DecidableEq, Repr, Inhabited

namespace Encoding

/-- The encoding with a name, as tags and configurations spell it. -/
def ofName? (name : String) : Option Encoding :=
  if name = "none" then some .none
  else if name = "entity" then some .entity
  else if name = "url" then some .url
  else Option.none

def name : Encoding → String
  | .none => "none"
  | .entity => "entity"
  | .url => "url"

/-- The entity of a markup character; other characters stand for themselves. -/
def entityOf (c : Char) : List Char :=
  if c = '<' then "&lt;".toList
  else if c = '>' then "&gt;".toList
  else if c = '&' then "&amp;".toList
  else if c = '"' then "&quot;".toList
  else if c = '\'' then "&#39;".toList
  else [c]

/-- Octets that a link may hold as they are. -/
def isUnreserved (octet : UInt8) : Bool :=
  (0x41 ≤ octet && octet ≤ 0x5A) || (0x61 ≤ octet && octet ≤ 0x7A) ||
    (0x30 ≤ octet && octet ≤ 0x39) || octet == 0x2D || octet == 0x2E || octet == 0x5F ||
    octet == 0x7E

/-- A hexadecimal digit in upper case. -/
def hexDigit (n : Nat) : Char :=
  if n < 10 then Char.ofNat (48 + n) else Char.ofNat (55 + n)

/-- An octet as it stands in a link. -/
def percentOf (octet : UInt8) : List Char :=
  if isUnreserved octet then [Char.ofNat octet.toNat]
  else ['%', hexDigit (octet.toNat / 16), hexDigit (octet.toNat % 16)]

/-- A value as its encoding writes it. -/
def encode (encoding : Encoding) (value : String) : String :=
  match encoding with
  | .none => value
  | .entity => String.ofList (value.toList.flatMap entityOf)
  | .url => String.ofList ((Bytes.ofText value).flatMap percentOf)

end Encoding

end ServerIncludes
