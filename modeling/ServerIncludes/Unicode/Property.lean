import ServerIncludes.Unicode.Additions
import ServerIncludes.Unicode.Category
import ServerIncludes.Unicode.Listed

/-!
Properties of characters that follow from their categories and from the listed ones: blanks,
letters and digits, word characters, and characters that do not show by themselves.
-/

namespace ServerIncludes.Unicode

/-- Blanks: the characters with the property White_Space. -/
def isBlank (c : Char) : Bool :=
  let code := c.toNat
  (9 ≤ code && code ≤ 13) || code == 32 || code == 0x85 || code == 0xA0 || code == 0x1680 ||
    (0x2000 ≤ code && code ≤ 0x200A) || code == 0x2028 || code == 0x2029 || code == 0x202F ||
    code == 0x205F || code == 0x3000

/-- The same blanks as a set. -/
def blanks : CharSet :=
  ⟨[(9, 13), (32, 32), (0x85, 0x85), (0xA0, 0xA0), (0x1680, 0x1680), (0x2000, 0x200A),
    (0x2028, 0x2029), (0x202F, 0x202F), (0x205F, 0x205F), (0x3000, 0x3000)]⟩

/-- Letters of every kind. -/
def letters : CharSet := Category.charSet (Category.group 'L')

/-- Characters with the property Alphabetic. -/
def alphabetic : CharSet :=
  (Category.charSet (Category.group 'L' ++ [.letterNumber])).union otherAlphabetic

/-- Numbers of every kind. -/
def numeric : CharSet := Category.charSet (Category.group 'N')

/-- Decimal digits of every script. -/
def digits : CharSet := Category.charSet [.decimalNumber]

/-- Word characters: alphabetic characters, marks, decimal digits, connector punctuation and the
two joiners. -/
def wordCharacters : CharSet :=
  ((Category.charSet (Category.group 'L' ++ Category.group 'M' ++
    [.letterNumber, .decimalNumber, .connectorPunctuation])).union otherAlphabetic).union
      joinControl

/-- True for a letter or a mark that counts as one, added characters included. -/
def isAlphabetic (c : Char) : Bool := alphabetic.contains c || addedAlphabetic.contains c

/-- True for a number of any kind, added characters included. -/
def isNumeric (c : Char) : Bool := numeric.contains c || addedNumeric.contains c

/-- A character that shows as part of the one before it. The two voicing marks of half width
extend it as well, but they take up room of their own. -/
def extendsPrevious (c : Char) : Bool :=
  Category.of c == .nonspacingMark || Category.of c == .enclosingMark ||
    (otherGraphemeExtend.contains c && c.toNat != 0xFF9E && c.toNat != 0xFF9F) ||
    addedMarks.contains c

/-- A character that shows as itself: neither a control, a format or an unassigned one, nor a
separator other than the space, nor one without a shape of its own. -/
def isPrintable (c : Char) : Bool :=
  if 32 ≤ c.toNat && c.toNat < 127 then true
  else match Category.of c with
    | .unassigned => added.contains c
    | .control | .format | .surrogate | .privateUse
    | .spaceSeparator | .lineSeparator | .paragraphSeparator => false
    | _ => !otherDefaultIgnorable.contains c

end ServerIncludes.Unicode
