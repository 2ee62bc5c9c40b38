import ServerIncludes.Toml.Value

/-!
Words of TOML documents that stand without quotes: truth values, numbers and points in time. A word
is one of these as a whole or not at all.
-/

namespace ServerIncludes.Toml

namespace Digits

/-- The value of a digit up to `f`. -/
def value (c : Char) : Nat :=
  if c.isDigit then c.toNat - 48 else if c.isLower then c.toNat - 87 else c.toNat - 55

def isHexadecimal (c : Char) : Bool :=
  c.isDigit || ('a' ≤ c && c ≤ 'f') || ('A' ≤ c && c ≤ 'F')

/-- Digits, where an underscore may stand between two of them. -/
def areGrouped (isDigit : Char → Bool) : List Char → Bool
  | [] => false
  | [c] => isDigit c
  | c :: '_' :: rest => isDigit c && areGrouped isDigit rest
  | c :: rest => isDigit c && areGrouped isDigit rest

/-- The number that digits spell; underscores do not count. -/
def number (base : Nat) (digits : List Char) : Nat :=
  (digits.filter (· != '_')).foldl (fun sum c => sum * base + value c) 0

def number? (base : Nat) (isDigit : Char → Bool) (digits : List Char) : Option Nat :=
  if areGrouped isDigit digits then some (number base digits) else none

/-- A number in decimal digits without a zero in front. -/
def decimal? (digits : List Char) : Option Nat :=
  if digits.head? = some '0' ∧ digits.length ≠ 1 then none
  else number? 10 Char.isDigit digits

end Digits

namespace Scalar

/-- Characters that words consist of. -/
def isWordChar (c : Char) : Bool :=
  c.isAlphanum || c == '+' || c == '-' || c == '_' || c == '.' || c == ':'

/-- A whole number of 64 bits, in decimal with or without a sign, or in another base. -/
def integer? (word : List Char) : Option Int :=
  let number : Option Int :=
    match word with
    | '0' :: 'x' :: digits => (Digits.number? 16 Digits.isHexadecimal digits).map Int.ofNat
    | '0' :: 'o' :: digits =>
      (Digits.number? 8 (fun c => '0' ≤ c && c ≤ '7') digits).map Int.ofNat
    | '0' :: 'b' :: digits =>
      (Digits.number? 2 (fun c => c == '0' || c == '1') digits).map Int.ofNat
    | '-' :: digits => (Digits.decimal? digits).map fun n => -Int.ofNat n
    | '+' :: digits => (Digits.decimal? digits).map Int.ofNat
    | digits => (Digits.decimal? digits).map Int.ofNat
  number.filter fun n => -9223372036854775808 ≤ n && n ≤ 9223372036854775807

/-- A decimal fraction without its sign: the digits before and after the point, and the power of ten
it is multiplied by. -/
structure Decimal where
  whole : List Char
  fraction : List Char
  exponent : Int
  deriving DecidableEq, Repr

namespace Decimal

/-- Digits and underscores at the front of a text, and the text after them. -/
def splitDigits (text : List Char) : List Char × List Char :=
  text.span fun c => c.isDigit || c == '_'

/-- An exponent with its letter, or nothing for none. -/
def exponent? : List Char → Option Int
  | [] => some 0
  | letter :: digits =>
    if letter = 'e' ∨ letter = 'E' then
      match digits with
      | '-' :: digits => (Digits.number? 10 Char.isDigit digits).map fun n => -Int.ofNat n
      | '+' :: digits => (Digits.number? 10 Char.isDigit digits).map Int.ofNat
      | digits => (Digits.number? 10 Char.isDigit digits).map Int.ofNat
    else none

/-- Reads a number that has a fraction, an exponent or both. -/
def ofWord? (word : List Char) : Option Decimal :=
  let (whole, rest) := splitDigits word
  if (Digits.decimal? whole).isNone ∨ rest.isEmpty then none
  else
    match rest with
    | '.' :: rest =>
      let (fraction, rest) := splitDigits rest
      if Digits.areGrouped Char.isDigit fraction then
        (exponent? rest).map fun exponent => ⟨whole, fraction, exponent⟩
      else none
    | rest => (exponent? rest).map fun exponent => ⟨whole, [], exponent⟩

/-- True of numbers that are nearer to two to the 1024 than to any double below it. -/
def overflows (decimal : Decimal) : Bool :=
  let digits := Digits.number 10 (decimal.whole ++ decimal.fraction)
  let scale : Int := decimal.exponent - ((decimal.fraction.filter (· != '_')).length : Int)
  let length : Int := ((Nat.toDigits 10 digits).length : Int)
  let bound := Nat.pow 2 1024 - Nat.pow 2 970
  if digits = 0 ∨ length + scale ≤ 308 then false
  else if 310 ≤ length + scale then true
  else bound * Nat.pow 10 (-scale).toNat ≤ digits * Nat.pow 10 scale.toNat

end Decimal

/-- A number that need not be whole. One without a minus sign must not overflow. -/
def isFloat (word : List Char) : Bool :=
  let unsigned :=
    match word with
    | '+' :: rest => rest
    | '-' :: rest => rest
    | rest => rest
  if unsigned = ['i', 'n', 'f'] ∨ unsigned = ['n', 'a', 'n'] then true
  else
    match Decimal.ofWord? unsigned with
    | none => false
    | some decimal => word.head? == some '-' || !decimal.overflows

/-- Reads `count` digits, whose number must be one of those that fit. -/
def field (count : Nat) (fits : Nat → Bool) (text : List Char) : Option (List Char) :=
  let digits := text.take count
  if digits.length = count ∧ digits.all Char.isDigit ∧ fits (Digits.number 10 digits) then
    some (text.drop count)
  else none

/-- Reads a character. -/
def mark (c : Char) : List Char → Option (List Char)
  | [] => none
  | first :: rest => if first = c then some rest else none

def daysIn (year month : Nat) : Nat :=
  if month = 2 then
    if year % 4 = 0 ∧ (year % 100 ≠ 0 ∨ year % 400 = 0) then 29 else 28
  else if month = 4 ∨ month = 6 ∨ month = 9 ∨ month = 11 then 30
  else 31

/-- Reads a date. Gives what comes after it. -/
def date? (text : List Char) : Option (List Char) := do
  let afterYear ← field 4 (fun _ => true) text
  let month ← mark '-' afterYear
  let afterMonth ← field 2 (fun n => 1 ≤ n && n ≤ 12) month
  let day ← mark '-' afterMonth
  let last := daysIn (Digits.number 10 (text.take 4)) (Digits.number 10 (month.take 2))
  field 2 (fun n => 1 ≤ n && n ≤ last) day

/-- Reads a time of day, whose seconds may have a fraction. -/
def time? (text : List Char) : Option (List Char) := do
  let minute ← mark ':' (← field 2 (· ≤ 23) text)
  let second ← mark ':' (← field 2 (· ≤ 59) minute)
  let rest ← field 2 (· ≤ 60) second
  match rest with
  | '.' :: digits =>
    if (digits.head?.map Char.isDigit).getD false then some (digits.dropWhile Char.isDigit)
    else none
  | rest => some rest

/-- A time of day that may be followed by its distance from universal time. -/
def isZonedTime (text : List Char) : Bool :=
  match time? text with
  | none => false
  | some [] => true
  | some (sign :: offset) =>
    if sign = 'Z' ∨ sign = 'z' then offset.isEmpty
    else if sign = '+' ∨ sign = '-' then
      (do field 2 (· ≤ 59) (← mark ':' (← field 2 (· ≤ 23) offset))) == some []
    else false

/-- A date, a time of day, or both with a letter between them. -/
def isMoment (word : List Char) : Bool :=
  match date? word with
  | some [] => true
  | some (letter :: rest) => (letter == 'T' || letter == 't') && isZonedTime rest
  | none => time? word == some []

/-- The scalar that a word stands for. -/
def ofWord? (word : List Char) : Option Scalar :=
  if word = ['t', 'r', 'u', 'e'] then some (.boolean true)
  else if word = ['f', 'a', 'l', 's', 'e'] then some (.boolean false)
  else if isMoment word then some (.moment (String.ofList word))
  else if isFloat word then some (.float (String.ofList word))
  else (integer? word).map .integer

/-- Reads a scalar without quotes at the front of a text. A date may be followed by a blank and a
time. -/
def read (text : List Char) : Option (Scalar × List Char) :=
  let word := text.takeWhile isWordChar
  let rest := text.dropWhile isWordChar
  let time := (rest.drop 1).takeWhile isWordChar
  if date? word = some [] ∧ rest.head? = some ' ' ∧ !time.isEmpty then
    if isZonedTime time then
      some (.moment (String.ofList (word ++ ' ' :: time)), (rest.drop 1).dropWhile isWordChar)
    else none
  else (ofWord? word).map (·, rest)

theorem length_of_read {text after : List Char} {value : Scalar}
    (found : read text = some (value, after)) : after.length < text.length := by
  have parts := congrArg List.length (List.takeWhile_append_dropWhile (p := isWordChar) (l := text))
  rw [List.length_append] at parts
  unfold read at found
  simp only at found
  split at found
  · next dated =>
    split at found
    · cases found
      have positive : 0 < (text.dropWhile isWordChar).length := by
        cases emptied : text.dropWhile isWordChar with
        | nil => simp [emptied] at dated
        | cons => exact Nat.zero_lt_succ _
      have := (List.dropWhile_sublist isWordChar
        (l := (text.dropWhile isWordChar).drop 1)).length_le
      rw [List.length_drop] at this
      omega
    · cases found
  · obtain ⟨_, ofWord, same⟩ := Option.map_eq_some_iff.1 found
    cases same
    have positive : 0 < (text.takeWhile isWordChar).length := by
      cases word : text.takeWhile isWordChar with
      | nil =>
        rw [word] at ofWord
        cases ofWord
      | cons => exact Nat.zero_lt_succ _
    omega

end Scalar

end ServerIncludes.Toml
