import ServerIncludes.Pattern.Regex

/-!
Regular expressions as programs. Every instruction names the instructions that may follow it, the
preferred one first; an expression is laid out so that what it leads to is known before it is.
-/

namespace ServerIncludes

/-- One instruction of a program; the numbers are places in the program. -/
inductive Instruction where
  /-- Reads a character of the set. -/
  | read (set : CharSet) (next : Nat)
  /-- Goes on with either, the first being preferred. -/
  | split (first second : Nat)
  /-- Remembers the place in the subject. -/
  | save (slot next : Nat)
  /-- Goes on if the place in the subject is of the kind asked for. -/
  | check (place : Anchor) (next : Nat)
  /-- The whole pattern has matched. -/
  | accept

/-- A program and the instruction it starts with. -/
structure Program where
  code : Array Instruction
  start : Nat

namespace Program

/-- Appends an instruction and gives its place. -/
def emit (instruction : Instruction) (code : Array Instruction) : Nat × Array Instruction :=
  (code.size, code.push instruction)

/-- A split that prefers to go on with the body of a repetition, or with what follows it. -/
def loop (greedy : Bool) (body next : Nat) : Instruction :=
  if greedy then .split body next else .split next body

/-- Lays out a part so many times over, each copy leading to the one laid out before it. -/
def copies (part : Nat → Array Instruction → Nat × Array Instruction) :
    Nat → Nat → Array Instruction → Nat × Array Instruction
  | 0, next, code => (next, code)
  | count + 1, next, code =>
    let (entry, code) := part next code
    copies part count entry code

/-- Lays out so many copies of a part, each of which may be left out together with those after
it. -/
def optionalCopies (part : Nat → Array Instruction → Nat × Array Instruction) (greedy : Bool)
    (exit : Nat) : Nat → Nat → Array Instruction → Nat × Array Instruction
  | 0, next, code => (next, code)
  | count + 1, next, code =>
    let (entry, code) := part next code
    let (entry, code) := emit (loop greedy entry exit) code
    optionalCopies part greedy exit count entry code

/-- Lays out a part that is repeated once or more. -/
def onceOrMore (part : Nat → Array Instruction → Nat × Array Instruction) (greedy : Bool)
    (next : Nat) (code : Array Instruction) : Nat × Array Instruction :=
  let again := code.size
  let (entry, code) := part again (code.push .accept)
  (entry, code.setIfInBounds again (loop greedy entry next))

/-- Lays out the characters of a text one after the other. -/
def spell : List Char → Nat → Array Instruction → Nat × Array Instruction
  | [], next, code => (next, code)
  | c :: later, next, code =>
    let (entry, code) := spell later next code
    emit (.read (.singleton c) entry) code

/-- Lays out an expression in front of the instruction at `next` and gives its first instruction. -/
def layOut : Regex → Nat → Array Instruction → Nat × Array Instruction
  | .empty, next, code => (next, code)
  | .literal text, next, code => spell text next code
  | .chars set, next, code => emit (.read set next) code
  | .anchor place, next, code => emit (.check place next) code
  | .capture index inner, next, code =>
    let (close, code) := emit (.save (2 * index + 1) next) code
    let (entry, code) := layOut inner close code
    emit (.save (2 * index) entry) code
  | .sequence first second, next, code =>
    let (entry, code) := layOut second next code
    layOut first entry code
  | .choice first second, next, code =>
    let (otherwise, code) := layOut second next code
    let (entry, code) := layOut first next code
    emit (.split entry otherwise) code
  | .repeated inner least most greedy, next, code =>
    let part := layOut inner
    match most with
    | some most =>
      let (entry, code) := optionalCopies part greedy next (most - least) next code
      copies part least entry code
    | none =>
      if least = 0 ∧ !inner.matchesEmpty then
        let again := code.size
        let (entry, code) := part again (code.push .accept)
        (again, code.setIfInBounds again (loop greedy entry next))
      else
        let (entry, code) := onceOrMore part greedy next code
        if least = 0 then emit (loop greedy entry next) code
        else copies part (least - 1) entry code

/-- The program of an expression. The text of the whole match is remembered as that of group
zero. -/
def ofRegex (regex : Regex) : Program :=
  let (entry, code) := layOut (.capture 0 regex) 0 #[.accept]
  ⟨code, entry⟩

end Program

end ServerIncludes
