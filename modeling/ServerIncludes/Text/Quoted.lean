import ServerIncludes.Unicode.Property

/-!
Texts in double quotes, as messages show them. Quotes and backslashes are escaped, and a character
that does not show by itself stands as its code point in hexadecimal.
-/

namespace ServerIncludes.Quoted

/-- A number in hexadecimal, in lower case. -/
def hexadecimal (n : Nat) : String := String.ofList (Nat.toDigits 16 n)

/-- How one character stands between the quotes. -/
def escape (c : Char) : String :=
  if c = '"' then "\\\""
  else if c = '\\' then "\\\\"
  else if c = '\n' then "\\n"
  else if c = '\r' then "\\r"
  else if c = '\t' then "\\t"
  else if c.toNat = 0 then "\\0"
  else if Unicode.extendsPrevious c || !Unicode.isPrintable c then
    "\\u\x7b" ++ hexadecimal c.toNat ++ "\x7d"
  else String.singleton c

/-- A text in double quotes. -/
def quote (text : String) : String :=
  "\"" ++ String.join (text.toList.map escape) ++ "\""

end ServerIncludes.Quoted
