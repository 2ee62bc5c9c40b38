import ServerIncludes.Condition.Token

/-!
Reading conditions. Tokens are taken one by one, each of them once, into what has been read so far:
the operators and parentheses that still wait for their operands. Comparisons bind tightest and do
not chain, then `&&`, then `||`, and both of these associate to the left; `!` stands before a single
operand.
-/

namespace ServerIncludes.ConditionReader

/-- Parentheses, negations and logical operators may be nested this deeply. -/
def maxDepth : Nat := 256

/-- An operand. A bare word stands for a text where it is compared, and for nothing elsewhere. -/
inductive Operand where
  | word (column : Nat) (content : String)
  | condition (condition : Condition)
  deriving DecidableEq

/-- Reads the content of a quoted text or bare word, which starts at an octet. -/
def readText (column : Nat) (content : String) : Except ConditionError Condition :=
  match Template.parse content with
  | .ok template => .ok (.literal template)
  | .error error => .error (.malformed (column + error.position) (.markerInText error.fault))

namespace Operand

/-- The operand as a condition of its own. -/
def toCondition : Operand → Except ConditionError Condition
  | word column content => .error (.malformed column (.bareWord content))
  | condition c => .ok c

/-- The operand as a side of a comparison. -/
def toValue : Operand → Except ConditionError Condition
  | word column content => readText column content
  | condition c => .ok c

end Operand

/-- The condition being read between two parentheses, or at the top. -/
structure Level where
  /-- How deeply the level itself is nested. -/
  depth : Nat
  /-- What is to the left of the last `||`, and the number of these operators. -/
  disjunction : Option Condition
  disjuncts : Nat
  /-- What is to the left of the last `&&` since then, and their number. -/
  conjunction : Option Condition
  conjuncts : Nat
  /-- The left side and the operator of a comparison whose right side is being read. -/
  comparison : Option (Condition × Comparison)
  /-- The number of `!` before the operand being read. -/
  negations : Nat
  deriving DecidableEq

namespace Level

def start (depth : Nat) : Level := ⟨depth, none, 0, none, 0, none, 0⟩

/-- How deeply the next operand is nested. -/
def innerDepth (level : Level) : Nat :=
  level.depth + level.disjuncts + level.conjuncts + level.negations

/-- Puts a comparison to the right of the conjunction so far. -/
def conjoin (level : Level) (last : Condition) : Condition :=
  match level.conjunction with
  | none => last
  | some left => .and left last

/-- Puts a conjunction to the right of the disjunction so far: all that the level has read. -/
def close (level : Level) (last : Condition) : Condition :=
  match level.disjunction with
  | none => level.conjoin last
  | some left => .or left (level.conjoin last)

end Level

/-- What the next token has to be. -/
inductive Expected where
  | operand
  /-- An operand, or a pattern that is searched for in the value on the left. -/
  | operandOrPattern (left : Condition) (equal : Bool)
  | pattern (left : Condition) (expected : Bool)
  /-- An operator after an operand that may be compared. -/
  | operator (left : Operand)
  /-- A logical operator after a comparison. -/
  | connective (left : Condition)
  deriving DecidableEq

/-- What has been read so far; `outer` holds the levels of the parentheses that are open, innermost
first. -/
structure State where
  outer : List Level
  level : Level
  expected : Expected
  deriving DecidableEq

namespace State

def start : State := ⟨[], Level.start 0, .operand⟩

/-- Puts as many negations around a condition. -/
def negate (condition : Condition) : Nat → Condition
  | 0 => condition
  | count + 1 => .not (negate condition count)

/-- Takes an operand, with the negations before it, and completes the comparison it is the right
side of. -/
def complete (outer : List Level) (level : Level) (operand : Operand) :
    Except ConditionError State := do
  let operand ←
    if level.negations = 0 then pure operand
    else do
      let inner ← operand.toCondition
      pure (.condition (negate inner level.negations))
  match level.comparison with
  | none => pure ⟨outer, { level with negations := 0 }, .operator operand⟩
  | some (left, comparison) =>
    let right ← operand.toValue
    pure ⟨outer, { level with negations := 0, comparison := none },
      .connective (.compare comparison left right)⟩

/-- Fails if something at a column would be nested too deeply. -/
def checkDepth (column depth : Nat) : Except ConditionError Unit :=
  if maxDepth < depth then .error (.malformed column .tooDeep) else .ok ()

/-- Takes a token where an operand has to be. -/
def takeOperand (outer : List Level) (level : Level) (column : Nat) :
    Token → Except ConditionError State
  | .text content => do
    let literal ← readText (column + 1) content
    complete outer level (.condition literal)
  | .reference name => complete outer level (.condition (.reference name))
  | .word content => complete outer level (.word column content)
  | .not => do
    checkDepth column (level.innerDepth + 1)
    pure ⟨outer, { level with negations := level.negations + 1 }, .operand⟩
  | .leftParen => do
    checkDepth column (level.innerDepth + 1)
    pure ⟨level :: outer, Level.start (level.innerDepth + 1), .operand⟩
  | found => .error (.malformed column (.notOperand found))

/-- Takes a token after an operand or comparison that is not compared further. -/
def takeConnective (outer : List Level) (level : Level) (left : Condition) (column : Nat) :
    Token → Except ConditionError State
  | .and => do
    checkDepth column (level.innerDepth + 1)
    pure ⟨outer, { level with
      conjunction := some (level.conjoin left), conjuncts := level.conjuncts + 1 }, .operand⟩
  | .or => do
    checkDepth column (level.depth + level.disjuncts + 1)
    pure ⟨outer, { level with
      disjunction := some (level.close left), disjuncts := level.disjuncts + 1,
      conjunction := none, conjuncts := 0 }, .operand⟩
  | found =>
    match outer with
    | [] => .error (.malformed column (.unexpected found))
    | around :: outer =>
      if found = .rightParen then complete outer around (.condition (.group (level.close left)))
      else .error (.malformed column (.notClosed found))

/-- Takes the pattern that is searched for in a value. -/
def takePattern (outer : List Level) (level : Level) (left : Condition) (expected : Bool)
    (source : String) : Except ConditionError State :=
  match Pattern.ofText? source with
  | none => .error (.invalidPattern source)
  | some pattern => .ok ⟨outer, level, .connective (.search expected left pattern)⟩

/-- Takes one token. -/
def take (state : State) (lexeme : Lexeme) : Except ConditionError State :=
  let { outer, level, expected } := state
  match expected with
  | .operand => takeOperand outer level lexeme.column lexeme.token
  | .operandOrPattern left equal =>
    match lexeme.token with
    | .pattern source => takePattern outer level left equal source
    | token =>
      takeOperand outer
        { level with comparison := some (left, if equal then .equal else .notEqual) }
        lexeme.column token
  | .pattern left wanted =>
    match lexeme.token with
    | .pattern source => takePattern outer level left wanted source
    | .text source => takePattern outer level left wanted source
    | token => .error (.malformed lexeme.column (.notPattern token))
  | .operator operand =>
    match lexeme.token with
    | .comparison .equal => do
      let left ← operand.toValue
      pure ⟨outer, level, .operandOrPattern left true⟩
    | .comparison .notEqual => do
      let left ← operand.toValue
      pure ⟨outer, level, .operandOrPattern left false⟩
    | .comparison comparison => do
      let left ← operand.toValue
      pure ⟨outer, { level with comparison := some (left, comparison) }, .operand⟩
    | .search wanted => do
      let left ← operand.toValue
      pure ⟨outer, level, .pattern left wanted⟩
    | token => do
      let left ← operand.toCondition
      takeConnective outer level left lexeme.column token
  | .connective left =>
    match lexeme.token with
    | .comparison _ => .error (.malformed lexeme.column .chained)
    | .search _ => .error (.malformed lexeme.column .chained)
    | token => takeConnective outer level left lexeme.column token

/-- Ends the reading of a text of `length` octets. -/
def finish (state : State) (length : Nat) : Except ConditionError Condition := do
  let last ← match state.expected with
    | .operand => .error (.malformed length .noOperand)
    | .operandOrPattern _ _ => .error (.malformed length .noOperand)
    | .pattern _ _ => .error (.malformed length .noPattern)
    | .operator operand => operand.toCondition
    | .connective left => pure left
  match state.outer with
  | [] => pure (state.level.close last)
  | _ :: _ => .error (.malformed length .unbalanced)

end State

/-- Reads the tokens of a text of `length` octets. -/
def readLexemes (lexemes : Lexemes) (length : Nat) : Except ConditionError Condition := do
  let state ← lexemes.list.foldlM State.take State.start
  match lexemes.fault with
  | some (column, fault) => .error (.malformed column fault)
  | none =>
    if lexemes.list.isEmpty then .error (.malformed 0 .noTokens) else state.finish length

end ConditionReader

namespace Condition

/-- Reads a condition. -/
def parse (text : String) : Except ConditionError Condition :=
  ConditionReader.readLexemes (Lexemes.scan 0 text.toList) text.utf8ByteSize

end Condition

end ServerIncludes
