import ServerIncludes.Condition
import ServerIncludes.Text.Quoted

/-!
The tokens of a condition's text. Tokens are read off the front one after another, blanks between
them skipped, so a fault in a later token does not hide those before it.
-/

namespace ServerIncludes

namespace Token

/-- A token as messages show it. -/
def describe : Token → String
  | text content => "Str(" ++ Quoted.quote content ++ ")"
  | reference name => "Var(" ++ Quoted.quote name ++ ")"
  | word content => "Word(" ++ Quoted.quote content ++ ")"
  | pattern source => "Regex(" ++ Quoted.quote source ++ ")"
  | comparison .equal => "EqEq"
  | comparison .notEqual => "NotEq"
  | comparison .less => "Lt"
  | comparison .lessEqual => "Le"
  | comparison .greater => "Gt"
  | comparison .greaterEqual => "Ge"
  | search true => "Match"
  | search false => "NotMatch"
  | not => "Not"
  | and => "And"
  | or => "Or"
  | leftParen => "LParen"
  | rightParen => "RParen"

end Token

def ConditionFault.message : ConditionFault → String
  | noTokens => "empty expression"
  | undoubled c =>
    let operator := String.singleton c
    "`" ++ operator ++ "` must be doubled (`" ++ operator ++ operator ++ "`)"
  | unterminatedText => "unterminated string"
  | unterminatedPattern => "unterminated regular expression"
  | marker fault => fault.message
  | noVariableName => "`$` must be followed by a variable name"
  | markerInText fault => fault.message ++ " in string"
  | bareWord word =>
    "bare word `" ++ word ++ "` is not a condition (use `$" ++ word ++ "` or quote it)"
  | tooDeep => "expression nested too deeply"
  | chained => "comparisons do not chain; add parentheses"
  | unexpected found => "unexpected " ++ found.describe
  | notPattern found => "expected a regular expression, got " ++ found.describe
  | noPattern => "expected a regular expression"
  | notClosed found => "expected `)`, got " ++ found.describe
  | unbalanced => "unbalanced `(`"
  | notOperand found => "expected an operand, got " ++ found.describe
  | noOperand => "missing operand"

/-- A token with the octet it starts at and the characters it is written with. -/
structure Lexeme where
  column : Nat
  source : List Char
  token : Token
  deriving DecidableEq, Repr

/-- The tokens of a text, and the fault that keeps the text from having more. -/
structure Lexemes where
  list : List Lexeme
  fault : Option (Nat × ConditionFault)
  deriving DecidableEq, Repr

namespace Lexeme

open Unicode (isBlank)

/-- Characters of a bare word. -/
def isWordChar (c : Char) : Bool :=
  !(isBlank c || c == '(' || c == ')' || c == '!' || c == '=' || c == '&' || c == '|' || c == '<' ||
    c == '>' || c == '"' || c == '\'')

/-- The operator or parenthesis at the front of a text, the longer one of two, and the number of its
characters. -/
def symbol? : List Char → Option (Token × Nat)
  | '=' :: '=' :: _ => some (.comparison .equal, 2)
  | '!' :: '=' :: _ => some (.comparison .notEqual, 2)
  | '=' :: '~' :: _ => some (.search true, 2)
  | '!' :: '~' :: _ => some (.search false, 2)
  | '<' :: '=' :: _ => some (.comparison .lessEqual, 2)
  | '>' :: '=' :: _ => some (.comparison .greaterEqual, 2)
  | '&' :: '&' :: _ => some (.and, 2)
  | '|' :: '|' :: _ => some (.or, 2)
  | '=' :: _ => some (.comparison .equal, 1)
  | '<' :: _ => some (.comparison .less, 1)
  | '>' :: _ => some (.comparison .greater, 1)
  | '(' :: _ => some (.leftParen, 1)
  | ')' :: _ => some (.rightParen, 1)
  | '!' :: _ => some (.not, 1)
  | _ => none

/-- The number of characters before the first occurrence of a delimiter that no backslash
protects. -/
def delimitedLength (delimiter : Char) : List Char → Option Nat
  | [] => none
  | c :: rest =>
    if c = delimiter then some 0
    else if c = '\\' then
      match rest with
      | [] => none
      | _ :: rest => (delimitedLength delimiter rest).map (· + 2)
    else (delimitedLength delimiter rest).map (· + 1)

/-- Leaves out the backslash of an escape that `drops` accepts the second character of. -/
def unescape (drops : Char → Bool) : List Char → List Char
  | [] => []
  | c :: rest =>
    if c = '\\' then
      match rest with
      | [] => [c]
      | next :: rest =>
        if drops next then next :: unescape drops rest else c :: next :: unescape drops rest
    else c :: unescape drops rest

/-- The token at the front of a text that starts with neither a blank nor an operator, and the
number of its characters. -/
def read (first : Char) (rest : List Char) : Except ConditionFault (Token × Nat) :=
  if first = '&' ∨ first = '|' then .error (.undoubled first)
  else if first = '"' ∨ first = '\'' then
    match delimitedLength first rest with
    | none => .error .unterminatedText
    | some length =>
      let content := unescape (fun c => c == first || c == '\\') (rest.take length)
      .ok (.text (String.ofList content), length + 2)
  else if first = '/' then
    match delimitedLength '/' rest with
    | none => .error .unterminatedPattern
    | some length =>
      .ok (.pattern (String.ofList (unescape (· == '/') (rest.take length))), length + 2)
  else if first = '$' then
    match rest with
    | '{' :: inner =>
      if inner.contains '}' then
        let name := inner.takeWhile (· != '}')
        if name.isEmpty then .error (.marker .empty)
        else .ok (.reference (String.ofList name), name.length + 3)
      else .error (.marker .unclosed)
    | _ =>
      let name := rest.takeWhile Template.isNameChar
      if name.isEmpty then .error .noVariableName
      else .ok (.reference (String.ofList name), name.length + 1)
  else
    let word := first :: rest.takeWhile isWordChar
    .ok (.word (String.ofList word), word.length)

/-- The token at the front of a text that does not start with a blank, and the number of its
characters. -/
def next (first : Char) (rest : List Char) : Except ConditionFault (Token × Nat) :=
  match symbol? (first :: rest) with
  | some symbol => .ok symbol
  | none => read first rest

theorem symbol?_pos {text : List Char} {token : Token} {length : Nat}
    (found : symbol? text = some (token, length)) : 0 < length := by
  unfold symbol? at found
  split at found <;> simp only [Option.some.injEq, Prod.mk.injEq, reduceCtorEq] at found <;> omega

theorem read_pos {first : Char} {rest : List Char} {token : Token} {length : Nat}
    (found : read first rest = .ok (token, length)) : 0 < length := by
  unfold read at found
  simp only at found
  repeat' split at found
  all_goals cases found <;> simp

/-- A token has at least one character. -/
theorem next_pos {first : Char} {rest : List Char} {token : Token} {length : Nat}
    (found : next first rest = .ok (token, length)) : 0 < length := by
  unfold next at found
  split at found
  · next symbol isSymbol =>
    cases found
    exact symbol?_pos isSymbol
  · exact read_pos found

end Lexeme

namespace Lexemes

open Unicode (isBlank)

def push (lexeme : Lexeme) (lexemes : Lexemes) : Lexemes :=
  ⟨lexeme :: lexemes.list, lexemes.fault⟩

/-- Reads the tokens of a text that starts at an octet. -/
def scan (column : Nat) (text : List Char) : Lexemes :=
  let start := column + utf8Length (text.takeWhile isBlank)
  match trimmed : text.dropWhile isBlank with
  | [] => ⟨[], none⟩
  | first :: rest =>
    match found : Lexeme.next first rest with
    | .error fault => ⟨[], some (start, fault)⟩
    | .ok (token, length) =>
      let source := (first :: rest).take length
      have : ((first :: rest).drop length).length < text.length := by
        have positive := Lexeme.next_pos found
        have within := (List.dropWhile_sublist isBlank (l := text)).length_le
        rw [trimmed] at within
        simp only [List.length_drop, List.length_cons] at within ⊢
        omega
      (scan (start + utf8Length source) ((first :: rest).drop length)).push ⟨start, source, token⟩
termination_by text.length
decreasing_by exact this

end Lexemes

end ServerIncludes
