import ServerIncludes.Pattern.OctetPath
import ServerIncludes.Pattern.Regex

/-!
The room that a pattern takes. A pattern is matched by two automata over octets, one that reads
the subject forwards and one that reads it backwards, and neither may exceed a fixed size. An
expression is laid out state by state, so that the size is known as soon as it is too large. Only
long lists of texts need no automata.
-/

namespace ServerIncludes.Footprint

/-- The greatest size of an automaton, in octets. -/
def maxSize : Nat := 10 * 1024 * 1024

/-- The octets that a state takes. -/
def stateSize : Nat := 32

/-- The octets that a way out of a branching state takes. -/
def branchSize : Nat := 4

/-- The octets that a way out of a state takes whose ways depend on the octet read. -/
def transitionSize : Nat := 8

/-- What has been laid out: the number of states, the octets that their ways out take, and the
states that may be shared, each at a place that follows from what it is made of. -/
structure Layout where
  states : Nat
  links : Nat
  shared : Array (List Nat × Nat)

/-- The direction in which an automaton reads the subject. -/
inductive Direction where
  | forwards
  | backwards
  deriving DecidableEq

namespace Layout

def start : Layout := ⟨0, 0, #[]⟩

/-- Adds some states whose ways out take so many octets, if there is room for them. -/
def add (layout : Layout) (states links : Nat) : Option Layout :=
  let states := layout.states + states
  let links := layout.links + links
  if states * stateSize + links ≤ maxSize then some ⟨states, links, layout.shared⟩ else none

/-- Adds ways out to branching states. -/
def branch (layout : Layout) (count : Nat) : Option Layout :=
  layout.add 0 (count * branchSize)

/-- The place at which a state with some make-up is kept: the make-up is hashed number by number,
by multiplication after an exclusive or. -/
def place (capacity : Nat) (makeUp : List Nat) : Nat :=
  (makeUp.foldl (fun hash n => (hash ^^^ n.toUInt64) * 1099511628211)
    (14695981039346656037 : UInt64)).toNat % capacity

/-- A state with some make-up: the one that is kept at its place if it is made of the same, else a
new one, which is kept there instead. -/
def share (layout : Layout) (capacity : Nat) (makeUp : List Nat) (links : Nat) :
    Option (Nat × Layout) :=
  let index := place capacity makeUp
  match layout.shared[index]? with
  | none =>
    (layout.add 1 links).map fun larger =>
      (layout.states, { larger with
        shared := (Array.replicate capacity ([], 0)).set! index (makeUp, layout.states) })
  | some (known, state) =>
    if known = makeUp then some (state, layout)
    else
      (layout.add 1 links).map fun larger =>
        (layout.states, { larger with
          shared := larger.shared.set! index (makeUp, layout.states) })

end Layout

/-- The octet paths of a set in increasing order. -/
def pathsOf (set : CharSet) : List OctetPath :=
  set.ranges.flatMap fun (low, high) => OctetPath.ofRange low high

/-- Neighbouring paths that start with the same range, as that range and what follows it. -/
def groupStarts : List OctetPath → List ((Nat × Nat) × List OctetPath)
  | [] => []
  | [] :: later => groupStarts later
  | (range :: rest) :: later =>
    match groupStarts later with
    | [] => [(range, [rest])]
    | (next, rests) :: groups =>
      if next = range then (range, rest :: rests) :: groups
      else (range, [rest]) :: (next, rests) :: groups

/-- Lays out what follows each range and gives the make-up of the state with these ranges. -/
def layOutGroups (layOutRest : List OctetPath → Layout → Option (Nat × Layout)) :
    List ((Nat × Nat) × List OctetPath) → Layout → Option (List Nat × Layout)
  | [], layout => some ([], layout)
  | ((low, high), rests) :: later, layout => do
    let (next, layout) ← layOutRest rests layout
    let (makeUp, layout) ← layOutGroups layOutRest later layout
    return (low :: high :: next :: makeUp, layout)

/-- Lays out paths of at most so many octets that lead to a state; paths that end alike share the
states of their ends. -/
def layOutPaths (goal : Nat) : Nat → List OctetPath → Layout → Option (Nat × Layout)
  | 0, _, layout => some (goal, layout)
  | length + 1, paths, layout =>
    match groupStarts paths with
    | [] => some (goal, layout)
    | groups => do
      let (makeUp, layout) ← layOutGroups (layOutPaths goal length) groups layout
      layout.share 10000 makeUp (groups.length * transitionSize)

/-- Lays out a path from its first octet, which is read last; paths that start alike share the
states of their starts. -/
def layOutBackwards (goal : Nat) : OctetPath → Layout → Option Layout
  | [], layout => some layout
  | (low, high) :: rest, layout => do
    let (state, layout) ← layout.share 1000 [goal, low, high] 0
    layOutBackwards state rest layout

/-- Lays out several paths that lead to a state, one after the other. -/
def layOutAllBackwards (goal : Nat) : List OctetPath → Layout → Option Layout
  | [], layout => some layout
  | path :: later, layout => do
    let layout ← layOutBackwards goal path layout
    let layout ← layout.branch 1
    layOutAllBackwards goal later layout

/-- Lays out one character of a set. -/
def layOutSet (direction : Direction) (set : CharSet) (layout : Layout) : Option Layout := do
  if set.ranges.all fun range => range.2 < 128 then
    layout.add 2 (set.ranges.length * transitionSize)
  else
    match direction with
    | .forwards =>
      let larger ← layout.add 1 0
      return (← layOutPaths layout.states 4 (pathsOf set) larger).2
    | .backwards =>
      let larger ← layout.add 2 0
      layOutAllBackwards (layout.states + 1) (pathsOf set) larger

/-- The number of octets of a text. -/
def octetCount (text : List Char) : Nat := text.foldl (fun count c => count + c.utf8Size) 0

/-- Cuts a list of words at the empty ones, which are left out. -/
def cutAtEmpty : List (List Nat) → List (List (List Nat))
  | [] => [[]]
  | [] :: later => [] :: cutAtEmpty later
  | word :: later =>
    match cutAtEmpty later with
    | [] => [[word]]
    | block :: blocks => (word :: block) :: blocks

/-- The words that go on after a first octet, without it. -/
def restsAfter (first : Nat) (words : List (List Nat)) : List (List Nat) :=
  words.filterMap fun
    | [] => none
    | octet :: rest => if octet = first then some rest else none

/-- The number of states of a tree of words that have at most so many octets, and the octets that
their ways out take. Words are tried in order: a word that ends here comes before those that follow
it, which therefore have a state of their own. -/
def treeSize : Nat → List (List Nat) → Nat × Nat
  | 0, _ => (0, 0)
  | length + 1, words =>
    let blocks :=
      match words with
      | [] :: later => [] :: cutAtEmpty (later.dropWhile List.isEmpty)
      | _ => cutAtEmpty words
    let filled := blocks.filter fun block => !block.isEmpty
    filled.foldl (fun total block =>
      let firsts := (block.filterMap List.head?).eraseDups
      let total :=
        (total.1 + 1,
          total.2 + (if firsts.length = 1 then 0 else firsts.length * transitionSize))
      firsts.foldl (fun total first =>
        let rests := restsAfter first block
        if rests.all List.isEmpty then total
        else
          let below := treeSize length rests
          (total.1 + below.1, total.2 + below.2)) total)
      (1, (filled.length + (blocks.length - 1)) * branchSize)

/-- The texts of alternatives that all are literals. -/
def literals? : List Regex → Option (List (List Char))
  | [] => some []
  | .literal text :: later => (literals? later).map (text :: ·)
  | _ :: _ => none

/-- Lays out a choice between texts as a tree of their octets. -/
def layOutTree (direction : Direction) (texts : List (List Char)) (layout : Layout) :
    Option Layout :=
  let words := texts.map fun text =>
    let octets := text.flatMap fun c => OctetPath.octets c.toNat
    if direction = .forwards then octets else octets.reverse
  let size := treeSize (words.foldl (fun length word => max length word.length) 0) words
  layout.add (size.1 + 1) size.2

/-- What a part has been laid out as; `branches` if its last state is a branching one, so that
leading on from it takes a further way out. -/
structure Piece where
  branches : Bool
  layout : Layout

namespace Piece

/-- Leads on from the part, besides adding so many ways out to other branching states. -/
def lead (piece : Piece) (others : Nat) : Option Layout :=
  piece.layout.branch (others + if piece.branches then 1 else 0)

end Piece

/-- How a part stands in a choice: not at all, as the second alternative, with which the states
around the choice are laid out, or as a later one. -/
inductive Role where
  | alone
  | second
  | later

/-- Fits a part into the choice that it is an alternative of. -/
def Role.finish (piece : Piece) : Role → Option Piece
  | .alone => some piece
  | .second => do
    let layout ← piece.lead 1
    return ⟨false, ← layout.add 2 0⟩
  | .later => do return ⟨false, ← piece.lead 1⟩

/-- Goes on with further copies of a part. -/
def moreCopies (part : Layout → Option Piece) : Nat → Piece → Option Piece
  | 0, piece => some piece
  | count + 1, piece =>
    match piece.lead 0 with
    | none => none
    | some layout =>
      match part layout with
      | none => none
      | some next => moreCopies part count next

/-- Lays out so many copies of a part one after the other. -/
def copies (part : Layout → Option Piece) (count : Nat) (layout : Layout) : Option Piece :=
  match count with
  | 0 => (layout.add 1 0).map fun layout => ⟨false, layout⟩
  | count + 1 => (part layout).bind (moreCopies part count)

/-- Lays out so many copies of a part, each of which may be left out together with those after
it. -/
def optionalCopies (part : Layout → Option Piece) : Nat → Piece → Option Piece
  | 0, piece => some piece
  | count + 1, piece =>
    match piece.lead 2 with
    | none => none
    | some layout =>
      match layout.add 1 0 with
      | none => none
      | some layout =>
        match part layout with
        | none => none
        | some next => optionalCopies part count next

/-- Lays out a repetition of a part; `skips` if no match of the part is empty. -/
def layOutRepetition (part : Layout → Option Piece) (skips : Bool) (least : Nat)
    (most : Option Nat) (layout : Layout) : Option Piece := do
  match most with
  | none =>
    if least = 0 ∧ skips then
      let piece ← part (← layout.add 1 0)
      return ⟨true, ← piece.lead 1⟩
    else if least = 0 then
      let layout ← (← part layout).lead 4
      return ⟨false, ← layout.add 3 0⟩
    else if least = 1 then
      let layout ← (← part layout).lead 1
      return ⟨true, ← layout.add 1 0⟩
    else
      let first ← copies part (least - 1) layout
      let layout ← (← part (← first.lead 0)).lead 1
      return ⟨true, ← layout.add 1 0⟩
  | some most =>
    if least = 0 ∧ most = 1 then
      let layout ← (← part (← layout.add 1 0)).lead 2
      return ⟨false, ← layout.add 1 0⟩
    else
      let first ← copies part least layout
      if least = most then return first
      else
        let last ← optionalCopies part (most - least) ⟨first.branches, ← first.layout.add 1 0⟩
        return ⟨false, ← last.lead 0⟩

/-- Lays out an expression. -/
def layOut (direction : Direction) : Regex → Role → Layout → Option Piece
  | .empty, role, layout => do role.finish ⟨false, ← layout.add 1 0⟩
  | .literal text, role, layout => do role.finish ⟨false, ← layout.add (octetCount text) 0⟩
  | .chars set, role, layout => do role.finish ⟨false, ← layOutSet direction set layout⟩
  | .anchor _, role, layout => do role.finish ⟨false, ← layout.add 1 0⟩
  | .capture _ inner, role, layout =>
    match direction with
    | .backwards => (layOut direction inner .alone layout).bind role.finish
    | .forwards => do
      let piece ← layOut direction inner .alone (← layout.add 1 0)
      role.finish ⟨false, ← (← piece.lead 0).add 1 0⟩
  | .sequence first second, role, layout => do
    match direction with
    | .forwards =>
      let piece ← layOut direction first .alone layout
      role.finish (← layOut direction second .alone (← piece.lead 0))
    | .backwards =>
      let piece ← layOut direction second .alone layout
      role.finish (← layOut direction first .alone (← piece.lead 0))
  | .choice first second, role, layout =>
    match role with
    | .alone =>
      match literals? (Regex.choice first second).alternatives with
      | some texts => (layOutTree direction texts layout).map fun layout => ⟨false, layout⟩
      | none => do
        let piece ← layOut direction first .alone layout
        layOut direction second .second (← piece.lead 1)
    | role => do
      let piece ← layOut direction first .alone layout
      layOut direction second .later (← role.finish piece).layout
  | .repeated inner least most _, role, layout => do
    role.finish (← layOutRepetition (layOut direction inner .alone)
      (inner.shortest.any (0 < ·)) least most layout)

/-- Lays out a whole pattern: first a loop that passes over what precedes a match, unless a match
can only be where the automaton starts; then, forwards, the marks around the match; and last the
state in which the pattern has matched. -/
def layOutPattern (direction : Direction) (regex : Regex) : Option Layout := do
  let fixed :=
    match direction with
    | .forwards => regex.startsAtStart
    | .backwards => regex.stopsAtStop
  let layout ←
    if fixed then Layout.start.add 1 0
    else Layout.start.add 3 (transitionSize + 2 * branchSize)
  match direction with
  | .forwards =>
    let piece ← layOut direction regex .alone (← layout.add 1 0)
    (← piece.lead 0).add 2 0
  | .backwards =>
    let piece ← layOut direction regex .alone layout
    (← piece.lead 0).add 1 0

/-- As many texts as this are looked up in a table of words instead of by automata. -/
def tableSize : Nat := 3000

/-- True if a pattern is nothing but a choice between texts that are looked up in a table, for
which there is always room. -/
def isTable (regex : Regex) : Bool :=
  (literals? regex.alternatives).any fun texts => tableSize ≤ texts.length

/-- True if there is room for a pattern in both directions. -/
def fits (regex : Regex) : Bool :=
  isTable regex ||
    ((layOutPattern .forwards regex).isSome && (layOutPattern .backwards regex).isSome)

end ServerIncludes.Footprint
