import ServerIncludes.Proofs.Condition.Lexing
import ServerIncludes.Proofs.Condition.Viability

/-! Conditions can be read by recursive descent as well, with one token of look-ahead: a function for
each part of a condition calls those for the parts within it. A function returns only behind a token
that it has taken, so all of them end. They read the same conditions from the same texts, and stop at
the same faults, as taking the tokens one by one. -/
namespace ServerIncludes.ConditionDescent

open ConditionLexing ConditionReader ConditionViability
open Unicode (isBlank)

/-! ## Looking ahead -/

/-- What is left to read: the token that has been looked at, if any, and the text behind it. -/
structure Input where
  held : Option Lexeme
  column : Nat
  text : List Char

namespace Input

def start (text : String) : Input := ⟨none, 0, text.toList⟩

/-- How much there is left to read. The token that is held counts: it had at least one character. -/
def left (input : Input) : Nat := input.held.toList.length + input.text.length

/-- The tokens that are left. -/
def lexemes (input : Input) : Lexemes :=
  match input.held with
  | none => Lexemes.scan input.column input.text
  | some lexeme => (Lexemes.scan input.column input.text).push lexeme

end Input

/-- The next token of an input and the place behind it. -/
structure Seen (input : Input) where
  lexeme : Lexeme
  column : Nat
  text : List Char
  shorter : text.length < input.left

namespace Seen

/-- The input if the token is taken. -/
def after (seen : Seen input) : Input := ⟨none, seen.column, seen.text⟩

/-- The input if the token is held. -/
def kept (seen : Seen input) : Input := ⟨some seen.lexeme, seen.column, seen.text⟩

theorem after_left (seen : Seen input) : seen.after.left < input.left := by
  have shorter := seen.shorter
  simpa [after, Input.left] using shorter

theorem kept_left (seen : Seen input) : seen.kept.left ≤ input.left := by
  have shorter := seen.shorter
  simp only [kept, Input.left, Option.toList_some, List.length_singleton] at shorter ⊢
  omega

end Seen

/-- What is behind a token is shorter than the text that the token is at the front of. -/
theorem length_behind {text : List Char} (trimmed : text.dropWhile isBlank = first :: rest)
    (next : Lexeme.next first rest = .ok (token, length)) :
    ((first :: rest).drop length).length < text.length := by
  have positive := Lexeme.next_pos next
  have within := (List.dropWhile_sublist isBlank (l := text)).length_le
  rw [trimmed] at within
  simp only [List.length_drop, List.length_cons] at within ⊢
  omega

/-- The next token, read off the text unless it is held. -/
def Input.look (input : Input) : Except ConditionError (Option (Seen input)) :=
  match held : input.held with
  | some lexeme => .ok (some ⟨lexeme, input.column, input.text, by simp [left, held]⟩)
  | none =>
    let start := input.column + utf8Length (input.text.takeWhile isBlank)
    match trimmed : input.text.dropWhile isBlank with
    | [] => .ok none
    | first :: rest =>
      match next : Lexeme.next first rest with
      | .error fault => .error (.malformed start fault)
      | .ok (token, length) =>
        let source := (first :: rest).take length
        .ok (some ⟨⟨start, source, token⟩, start + utf8Length source, (first :: rest).drop length,
          by simpa [left, held] using length_behind trimmed next⟩)

/-- What looking ahead comes to, and the tokens that are left then. -/
inductive Looks (input : Input) : Except ConditionError (Option (Seen input)) → Prop where
  | fault (lexemes : input.lexemes = ⟨[], some (column, fault)⟩) :
    Looks input (.error (.malformed column fault))
  | ended (lexemes : input.lexemes = ⟨[], none⟩) : Looks input (.ok none)
  | seen (lexemes : input.lexemes = seen.after.lexemes.push seen.lexeme) :
    Looks input (.ok (some seen))

theorem Input.looks (input : Input) : Looks input input.look := by
  obtain ⟨held, column, text⟩ := input
  unfold Input.look
  split
  · rename_i isHeld
    cases isHeld
    exact .seen rfl
  · rename_i notHeld
    cases notHeld
    simp only
    split
    · rename_i trimmed
      exact .ended (scan_empty trimmed column)
    · rename_i trimmed
      split
      · rename_i next
        exact .fault (scan_fault trimmed next column)
      · rename_i next
        exact .seen (scan_token trimmed next column)

theorem lexemes_kept (seen : Seen input) :
    seen.kept.lexemes = seen.after.lexemes.push seen.lexeme := rfl

/-! ## Descents -/

/-- The functions that call one another. -/
inductive Part where
  | disjunction
  | conjunction
  | comparison
  | unary
  | primary
  | pattern
  deriving DecidableEq

/-- What happens on the way: a function is called, within the calls that have not returned yet, the
innermost first; or a token is taken. -/
inductive Event where
  | call (stack : List Part)
  | take (token : Token)

/-- What has been read, and the input behind it, of which there is less left than a bound. -/
structure Behind (bound : Nat) (α : Type) where
  value : α
  after : Input
  shorter : after.left < bound

/-- What a function comes to, and what happened on the way. -/
structure Descent (bound : Nat) (α : Type) where
  trace : List Event
  result : Except ConditionError (Behind bound α)

namespace Descent

def fail (error : ConditionError) : Descent bound α := ⟨[], .error error⟩

def done (value : α) (after : Input) (shorter : after.left < bound) : Descent bound α :=
  ⟨[], .ok ⟨value, after, shorter⟩⟩

/-- Puts an event before all others. -/
def record (event : Event) (descent : Descent bound α) : Descent bound α :=
  ⟨event :: descent.trace, descent.result⟩

/-- Goes on with the result of a step in which nothing is recorded. -/
def trying (step : Except ConditionError α) (next : α → Descent bound β) : Descent bound β :=
  match step with
  | .error error => fail error
  | .ok value => next value

/-- Goes on behind what has been read. -/
def andThen (first : Descent smaller α)
    (next : α → (after : Input) → after.left < smaller → Descent bound β) : Descent bound β :=
  match first.result with
  | .error error => ⟨first.trace, .error error⟩
  | .ok read =>
    let last := next read.value read.after read.shorter
    ⟨first.trace ++ last.trace, last.result⟩

end Descent

/-! ## The functions -/

instance : DecidablePred Relates
  | .comparison _ => .isTrue trivial
  | .search _ => .isTrue trivial
  | .text _ => .isFalse id
  | .reference _ => .isFalse id
  | .word _ => .isFalse id
  | .pattern _ => .isFalse id
  | .not => .isFalse id
  | .and => .isFalse id
  | .or => .isFalse id
  | .leftParen => .isFalse id
  | .rightParen => .isFalse id

/-- A token that is an operand by itself. -/
def leaf (lexeme : Lexeme) : Except ConditionError Operand :=
  match lexeme.token with
  | .text content => (readText (lexeme.column + 1) content).map .condition
  | .reference name => .ok (.condition (.reference name))
  | .word content => .ok (.word lexeme.column content)
  | found => .error (.malformed lexeme.column (.notOperand found))

/-- A token that is a pattern where one has to be. -/
def patternOf (lexeme : Lexeme) : Except ConditionError Pattern :=
  match lexeme.token with
  | .pattern source => compile source
  | .text source => compile source
  | found => .error (.malformed lexeme.column (.notPattern found))
where
  compile (source : String) : Except ConditionError Pattern :=
    match Pattern.ofText? source with
    | none => .error (.invalidPattern source)
    | some pattern => .ok pattern

/-- A comparison that is a search because a pattern follows, and what the search expects. -/
def searching? : Comparison → Option Token → Option Bool
  | .equal, some (.pattern _) => some true
  | .notEqual, some (.pattern _) => some false
  | _, _ => none

/-- The input after looking at the next token, which is held then. -/
def peeked (input : Input) : Option (Seen input) → Input
  | none => input
  | some seen => seen.kept

theorem peeked_left (input : Input) (next : Option (Seen input)) :
    (peeked input next).left ≤ input.left := by
  cases next with
  | none => exact Nat.le_refl _
  | some seen => exact seen.kept_left

/-- Operands and the operator between them, from the second one on. Every round takes an operator. -/
def chain (operator : Token) (join : Condition → Condition → Condition)
    (operand : Nat → (input : Input) → input.left < bound → Descent input.left Condition)
    (depth : Nat) (left : Condition) (input : Input) (within : input.left < bound) :
    Descent bound Condition :=
  .trying input.look fun
    | none => .done left input within
    | some seen =>
      have taken := seen.after_left
      if seen.lexeme.token = operator then
        .record (.take operator) <|
          .trying (State.checkDepth seen.lexeme.column (depth + 1)) fun _ =>
            (operand (depth + 1) seen.after (by omega)).andThen fun right after shorter =>
              chain operator join operand (depth + 1) (join left right) after (by omega)
      else .done left seen.kept (Nat.lt_of_le_of_lt seen.kept_left within)
termination_by input.left

/-- Ends a comparison, unless it is compared again. -/
def unchained (condition : Condition) (input : Input) (within : input.left < bound) :
    Descent bound Condition :=
  .trying input.look fun
    | none => .done condition input within
    | some seen =>
      if Relates seen.lexeme.token then .fail (.malformed seen.lexeme.column .chained)
      else .done condition seen.kept (Nat.lt_of_le_of_lt seen.kept_left within)

variable (length : Nat)

/-- The pattern that is searched for. -/
def pattern (around : List Part) (input : Input) : Descent input.left Pattern :=
  .record (.call (.pattern :: around)) <| .trying input.look fun
    | none => .fail (.malformed length .noPattern)
    | some seen =>
      .record (.take seen.lexeme.token) <| .trying (patternOf seen.lexeme) fun pattern =>
        .done pattern seen.after seen.after_left

mutual

/-- Conjunctions between `||`. -/
def disjunction (around : List Part) (depth : Nat) (input : Input) : Descent input.left Condition :=
  .record (.call (.disjunction :: around)) <|
    (conjunction (.disjunction :: around) depth input).andThen fun first after shorter =>
      chain .or .or (fun depth input _ => conjunction (.disjunction :: around) depth input)
        depth first after shorter
termination_by 5 * input.left + 4

/-- Comparisons between `&&`. -/
def conjunction (around : List Part) (depth : Nat) (input : Input) : Descent input.left Condition :=
  .record (.call (.conjunction :: around)) <|
    (comparison (.conjunction :: around) depth input).andThen fun first after shorter =>
      chain .and .and (fun depth input _ => comparison (.conjunction :: around) depth input)
        depth first after shorter
termination_by 5 * input.left + 3

/-- An operand, or two of them that are compared, or one that a pattern is searched for in. -/
def comparison (around : List Part) (depth : Nat) (input : Input) : Descent input.left Condition :=
  .record (.call (.comparison :: around)) <|
    (unary (.comparison :: around) depth input).andThen fun operand after shorter =>
      .trying after.look fun
        | none => .trying operand.toCondition fun condition => .done condition after shorter
        | some seen =>
          have taken := seen.after_left
          match seen.lexeme.token with
          | .search wanted =>
            .record (.take (.search wanted)) <| .trying operand.toValue fun left =>
              (pattern length (.comparison :: around) seen.after).andThen
                fun pattern last shorter =>
                  unchained (.search wanted left pattern) last (by omega)
          | .comparison relation =>
            .record (.take (.comparison relation)) <| .trying operand.toValue fun left =>
              .trying seen.after.look fun next =>
                have held := peeked_left seen.after next
                match searching? relation (next.map (·.lexeme.token)) with
                | some wanted =>
                  (pattern length (.comparison :: around) (peeked seen.after next)).andThen
                    fun pattern last shorter =>
                      unchained (.search wanted left pattern) last (by omega)
                | none =>
                  (unary (.comparison :: around) depth (peeked seen.after next)).andThen
                    fun operand last shorter => .trying operand.toValue fun right =>
                      unchained (.compare relation left right) last (by omega)
          | _ =>
            .trying operand.toCondition fun condition =>
              .done condition seen.kept (Nat.lt_of_le_of_lt seen.kept_left shorter)
termination_by 5 * input.left + 2

/-- An operand with the `!` before it. -/
def unary (around : List Part) (depth : Nat) (input : Input) : Descent input.left Operand :=
  .record (.call (.unary :: around)) <| .trying input.look fun
    | none => primary (.unary :: around) depth input
    | some seen =>
      have taken := seen.after_left
      have held := seen.kept_left
      if seen.lexeme.token = .not then
        .record (.take .not) <|
          .trying (State.checkDepth seen.lexeme.column (depth + 1)) fun _ =>
            (unary (.unary :: around) (depth + 1) seen.after).andThen fun operand after shorter =>
              .trying operand.toCondition fun inner =>
                .done (.condition (.not inner)) after (by omega)
      else
        (primary (.unary :: around) depth seen.kept).andThen fun operand after shorter =>
          .done operand after (by omega)
termination_by 5 * input.left + 1

/-- A text, a variable, a bare word or a condition in parentheses. -/
def primary (around : List Part) (depth : Nat) (input : Input) : Descent input.left Operand :=
  .record (.call (.primary :: around)) <| .trying input.look fun
    | none => .fail (.malformed length .noOperand)
    | some seen =>
      have taken := seen.after_left
      .record (.take seen.lexeme.token) <|
        if seen.lexeme.token = .leftParen then
          .trying (State.checkDepth seen.lexeme.column (depth + 1)) fun _ =>
            (disjunction (.primary :: around) (depth + 1) seen.after).andThen
              fun inner after shorter => .trying after.look fun
                | none => .fail (.malformed length .unbalanced)
                | some closer =>
                  have closed := closer.after_left
                  .record (.take closer.lexeme.token) <|
                    if closer.lexeme.token = .rightParen then
                      .done (.condition (.group inner)) closer.after (by omega)
                    else
                      .fail (.malformed closer.lexeme.column (.notClosed closer.lexeme.token))
        else .trying (leaf seen.lexeme) fun operand => .done operand seen.after taken
termination_by 5 * input.left

end

/-- Reads a text. -/
def descend (text : String) : Descent (Input.start text).left Condition :=
  .trying (Input.start text).look fun
    | none => .fail (.malformed 0 .noTokens)
    | some seen =>
      have held := seen.kept_left
      (disjunction text.utf8ByteSize [] 0 seen.kept).andThen fun condition after shorter =>
        .trying after.look fun
          | none => .done condition after (by omega)
          | some last =>
            .record (.take last.lexeme.token) <|
              .fail (.malformed last.lexeme.column (.unexpected last.lexeme.token))

end ServerIncludes.ConditionDescent
