import ServerIncludes.Unicode.Folding
import ServerIncludes.Unicode.Property

/-!
Classes of characters in patterns: those written as an escaped letter and those named between
colons in brackets.
-/

namespace ServerIncludes.CharClass

/-- The class of an escaped lower-case letter: digits, blanks or word characters. -/
def escaped? (letter : Char) (ascii : Bool) : Option CharSet :=
  if letter = 'd' then some (if ascii then ⟨[(48, 57)]⟩ else Unicode.digits)
  else if letter = 's' then some (if ascii then ⟨[(9, 13), (32, 32)]⟩ else Unicode.blanks)
  else if letter = 'w' then
    some (if ascii then ⟨[(48, 57), (65, 90), (95, 95), (97, 122)]⟩ else Unicode.wordCharacters)
  else none

/-- The classes that are named between colons. -/
def bracketed : List (String × List (Nat × Nat)) :=
  [("alnum", [(48, 57), (65, 90), (97, 122)]), ("alpha", [(65, 90), (97, 122)]),
    ("ascii", [(0, 127)]), ("blank", [(9, 9), (32, 32)]), ("cntrl", [(0, 31), (127, 127)]),
    ("digit", [(48, 57)]), ("graph", [(33, 126)]), ("lower", [(97, 122)]), ("print", [(32, 126)]),
    ("punct", [(33, 47), (58, 64), (91, 96), (123, 126)]), ("space", [(9, 13), (32, 32)]),
    ("upper", [(65, 90)]), ("word", [(48, 57), (65, 90), (95, 95), (97, 122)]),
    ("xdigit", [(48, 57), (65, 70), (97, 102)])]

def bracketed? (name : List Char) : Option CharSet :=
  (bracketed.find? fun entry => entry.1.toList == name).map fun entry => ⟨entry.2⟩

/-- Closes a set under letters that differ only in case, Latin letters alone if `ascii`. -/
def foldCase (ascii : Bool) (set : CharSet) : CharSet :=
  if ascii then
    let capitals := (set.inter (CharSet.range 65 90)).ranges
    let smalls := (set.inter (CharSet.range 97 122)).ranges
    let lower := capitals.map fun range => (range.1 + 32, range.2 + 32)
    let upper := smalls.map fun range => (range.1 - 32, range.2 - 32)
    CharSet.ofRanges (set.ranges ++ lower ++ upper)
  else Folding.close set

end ServerIncludes.CharClass
