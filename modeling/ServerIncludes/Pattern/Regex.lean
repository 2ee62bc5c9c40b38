import ServerIncludes.Unicode.CharSet

/-!
Regular expressions as trees. A tree says what a pattern matches once its flags are taken into
account; which of several matches is preferred is settled by the order of choices and by whether
repetitions are greedy. Trees are built by constructors that bring them into a common form: runs
of characters are joined, sequences and choices lean to the right, and what all alternatives begin
with stands before the choice.
-/

namespace ServerIncludes

/-- A condition on a place between two characters. -/
inductive Anchor where
  /-- The start of the subject. -/
  | start
  /-- The end of the subject. -/
  | stop
  /-- The start of a line, lines ending in a line feed. -/
  | lineStart
  | lineStop
  /-- The start of a line, lines ending in a line feed, a carriage return or both. -/
  | anyLineStart
  | anyLineStop
  /-- A place with a word character on exactly one side; `ascii` restricts word characters. -/
  | wordBoundary (ascii : Bool)
  | insideWord (ascii : Bool)
  | wordStart (ascii : Bool)
  | wordStop (ascii : Bool)
  /-- A place without a word character before it. -/
  | noWordBefore (ascii : Bool)
  | noWordAfter (ascii : Bool)
  deriving DecidableEq, Repr

/-- A regular expression. -/
inductive Regex where
  /-- Matches without reading anything. -/
  | empty
  /-- The characters of a text, one after the other. -/
  | literal (text : List Char)
  /-- One character of a set. -/
  | chars (set : CharSet)
  | anchor (place : Anchor)
  /-- A group whose text is remembered under a number. -/
  | capture (index : Nat) (inner : Regex)
  | sequence (first second : Regex)
  /-- The first alternative is preferred. -/
  | choice (first second : Regex)
  /-- At least `least` and, if there is a bound, at most `most` copies; as many as possible are
  preferred if `greedy`, else as few as possible. -/
  | repeated (inner : Regex) (least : Nat) (most : Option Nat) (greedy : Bool)
  deriving DecidableEq

namespace Regex

/-- True if the expression can match without reading anything. -/
def matchesEmpty : Regex → Bool
  | empty => true
  | literal text => text.isEmpty
  | chars _ => false
  | anchor _ => true
  | capture _ inner => matchesEmpty inner
  | sequence first second => matchesEmpty first && matchesEmpty second
  | choice first second => matchesEmpty first || matchesEmpty second
  | repeated inner least _ _ => least == 0 || matchesEmpty inner

/-- The length of the shortest match; nothing if a part cannot match at all. -/
def shortest : Regex → Option Nat
  | empty => some 0
  | literal text => some text.length
  | chars set => if set.isEmpty then none else some 1
  | anchor _ => some 0
  | capture _ inner => shortest inner
  | sequence first second =>
    (shortest first).bind fun length => (shortest second).map (length + ·)
  | choice first second =>
    (shortest first).bind fun length => (shortest second).map (min length)
  | repeated inner least _ _ => (shortest inner).map (least * ·)

/-- True if no match reads anything. What cannot match at all does not count as such. -/
def readsNothing : Regex → Bool
  | empty => true
  | literal text => text.isEmpty
  | chars _ => false
  | anchor _ => true
  | capture _ inner => readsNothing inner
  | sequence first second => readsNothing first && readsNothing second
  | choice first second => readsNothing first && readsNothing second
  | repeated inner _ most _ => most.isSome && readsNothing inner

/-- True if every match is at the start of the subject. -/
def startsAtStart : Regex → Bool
  | anchor place => place == .start
  | capture _ inner => startsAtStart inner
  | sequence first second =>
    startsAtStart first || (readsNothing first && startsAtStart second)
  | choice first second => startsAtStart first && startsAtStart second
  | repeated inner least _ _ => 0 < least && startsAtStart inner
  | _ => false

/-- True if every match is at the end of the subject. -/
def stopsAtStop : Regex → Bool
  | anchor place => place == .stop
  | capture _ inner => stopsAtStop inner
  | sequence first second =>
    stopsAtStop second || (readsNothing second && stopsAtStop first)
  | choice first second => stopsAtStop first && stopsAtStop second
  | repeated inner least _ _ => 0 < least && stopsAtStop inner
  | _ => false

/-- One character of a set, which is a literal if there is only one. -/
def ofSet (set : CharSet) : Regex :=
  match set.ranges with
  | [(low, high)] => if low = high then literal [Char.ofNat low] else chars set
  | _ => chars set

/-- The parts of a sequence; an expression of another kind is its only part. -/
def parts : Regex → List Regex
  | empty => []
  | sequence first second => first :: parts second
  | other => [other]

/-- Joins literals that follow each other. -/
def joinLiterals : List Regex → List Regex
  | [] => []
  | part :: later =>
    match part, joinLiterals later with
    | literal text, literal more :: rest => literal (text ++ more) :: rest
    | part, rest => part :: rest

/-- The sequence with some parts. -/
def ofParts : List Regex → Regex
  | [] => empty
  | [part] => part
  | part :: later => sequence part (ofParts later)

/-- Expressions one after the other. -/
def concat (expressions : List Regex) : Regex :=
  ofParts (joinLiterals (expressions.flatMap parts))

/-- The alternatives of a choice; an expression of another kind is its only one. -/
def alternatives : Regex → List Regex
  | choice first second => first :: alternatives second
  | other => [other]

/-- The choice between some alternatives. -/
def ofAlternatives : List Regex → Regex
  | [] => chars .empty
  | [alternative] => alternative
  | alternative :: later => choice alternative (ofAlternatives later)

/-- The set of the characters that alternatives of one character each stand for. -/
def singleCharacters? : List Regex → Option (List (Nat × Nat))
  | [] => some []
  | literal [c] :: later =>
    (singleCharacters? later).map ((c.toNat, c.toNat) :: ·)
  | _ :: _ => none

/-- The ranges of alternatives that all are sets. -/
def sets? : List Regex → Option (List (Nat × Nat))
  | [] => some []
  | chars set :: later => (sets? later).map (set.ranges ++ ·)
  | _ :: _ => none

/-- True if the expression is a sequence of several parts. -/
def isSequence : Regex → Bool
  | sequence _ _ => true
  | _ => false

/-- The longest list that two lists begin with. -/
def commonStart (first second : List Regex) : List Regex :=
  match first, second with
  | a :: as, b :: bs => if a = b then a :: commonStart as bs else []
  | _, _ => []

/-- The parts that several sequences all begin with. -/
def sharedStart : List Regex → List Regex
  | [] => []
  | first :: later =>
    if (first :: later).all isSequence then
      later.foldl (fun shared alternative => commonStart shared alternative.parts) first.parts
    else []

/-- A choice among alternatives none of which is a choice. Single characters and sets are joined to
one set. -/
def choose (options : List Regex) : Regex :=
  match options with
  | [] => chars .empty
  | [only] => only
  | _ =>
    match singleCharacters? options with
    | some ranges => ofSet (.ofRanges ranges)
    | none =>
      match sets? options with
      | some ranges => ofSet (.ofRanges ranges)
      | none => ofAlternatives options

/-- A choice among expressions, of which the first are preferred. What all of them begin with
stands before the choice; what is left of them then may begin alike no more. -/
def alternation (expressions : List Regex) : Regex :=
  let options := expressions.flatMap alternatives
  match options, sharedStart options with
  | _ :: _ :: _, shared@(_ :: _) =>
    let rests := options.map fun option => ofParts (option.parts.drop shared.length)
    concat (shared ++ [choose (rests.flatMap alternatives)])
  | _, _ => choose options

/-- A repetition. Copies of what reads nothing are not told apart, so one is enough. -/
def repetition (inner : Regex) (least : Nat) (most : Option Nat) (greedy : Bool) : Regex :=
  let blank := inner.readsNothing
  let least' := if blank then min least 1 else least
  let most' := if blank then some (min (most.getD 1) 1) else most
  if most' = some 0 then empty
  else if least' = 1 ∧ most' = some 1 then inner
  else repeated inner least' most' greedy

end Regex

end ServerIncludes
