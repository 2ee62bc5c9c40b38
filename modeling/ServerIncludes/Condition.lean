import ServerIncludes.Pattern
import ServerIncludes.Template

/-!
Conditions of `if` and `elif`: what they are made of, what can be wrong with their text, and the
words for it.
-/

namespace ServerIncludes

/-- How two values are compared, as texts by code point. -/
inductive Comparison where
  | equal
  | notEqual
  | less
  | lessEqual
  | greater
  | greaterEqual
  deriving DecidableEq, Repr

namespace Comparison

/-- True if the comparison holds of two values. -/
def holds (left right : String) : Comparison → Bool
  | equal => left == right
  | notEqual => left != right
  | less => left < right
  | lessEqual => !(right < left : Bool)
  | greater => right < left
  | greaterEqual => !(left < right : Bool)

end Comparison

/-- A condition. It is true or false, and has a value when it is compared. -/
inductive Condition where
  /-- A quoted text or a bare word. -/
  | literal (text : Template)
  /-- A variable by name. -/
  | reference (name : String)
  | compare (comparison : Comparison) (left right : Condition)
  /-- Whether a pattern is found in a value, as `expected`. -/
  | search (expected : Bool) (subject : Condition) (pattern : Pattern)
  | not (inner : Condition)
  | and (left right : Condition)
  | or (left right : Condition)
  /-- A condition in parentheses. -/
  | group (inner : Condition)
  deriving DecidableEq

/-- The words of a condition. -/
inductive Token where
  /-- A quoted text, its quotes unescaped. -/
  | text (content : String)
  | reference (name : String)
  | word (content : String)
  /-- A pattern between slashes. -/
  | pattern (source : String)
  | comparison (comparison : Comparison)
  /-- `=~` or, unless `expected`, `!~`. -/
  | search (expected : Bool)
  | not
  | and
  | or
  | leftParen
  | rightParen
  deriving DecidableEq, Repr

/-- What is wrong with the text of a condition. -/
inductive ConditionFault where
  | noTokens
  /-- A single `&` or `|`. -/
  | undoubled (operator : Char)
  | unterminatedText
  | unterminatedPattern
  /-- A variable marker among the tokens. -/
  | marker (fault : MarkerFault)
  | noVariableName
  /-- A variable marker in a quoted text or bare word. -/
  | markerInText (fault : MarkerFault)
  | bareWord (word : String)
  | tooDeep
  | chained
  | unexpected (found : Token)
  | notPattern (found : Token)
  | noPattern
  | notClosed (found : Token)
  | unbalanced
  | notOperand (found : Token)
  | noOperand
  deriving DecidableEq, Repr

/-- Why a text is no condition: a fault at an octet of it, or a pattern that cannot be compiled. -/
inductive ConditionError where
  | malformed (column : Nat) (fault : ConditionFault)
  | invalidPattern (source : String)
  deriving DecidableEq, Repr

end ServerIncludes
