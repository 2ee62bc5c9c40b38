import ServerIncludes.Pattern.Footprint
import ServerIncludes.Pattern.Notation

/-!
Reading a whole pattern. Groups that are still open wait on a stack, each with what stood before
it, so that one loop over the text suffices and every round takes at least one character.
-/

namespace ServerIncludes.PatternReader

open PatternNotation

/-- A finished part of a pattern. `depth` counts the constructs nested in it; a part that only sets
flags cannot be repeated. -/
structure Part where
  regex : Regex
  depth : Nat
  repeatable : Bool

/-- The alternatives of a group that is being read: finished ones and the parts of the last one,
both with the newest first. -/
structure Alternatives where
  finished : List Part
  current : List Part

namespace Alternatives

/-- The parts of one alternative as one. -/
def sequence : List Part → Part
  | [] => ⟨.empty, 0, false⟩
  | [part] => part
  | parts => ⟨.concat (parts.reverse.map Part.regex),
      parts.foldl (fun depth part => max depth part.depth) 0 + 1, true⟩

def push (a : Alternatives) (part : Part) : Alternatives :=
  { a with current := part :: a.current }

/-- Ends the last alternative. -/
def next (a : Alternatives) : Alternatives := ⟨sequence a.current :: a.finished, []⟩

/-- All alternatives as one part; of two that match, the one written first is preferred. -/
def close (a : Alternatives) : Part :=
  let last := sequence a.current
  match a.finished with
  | [] => last
  | earlier =>
    ⟨.alternation (earlier.foldl (fun later part => part.regex :: later) [last.regex]),
      earlier.foldl (fun depth part => max depth part.depth) last.depth + 1, true⟩

end Alternatives

/-- A group that is being read: its number if it is remembered, and what to go on with after it. -/
structure OpenGroup where
  index : Option Nat
  around : Alternatives
  flags : Flags

/-- What has been read of a pattern. `names` lists the named groups, newest first. -/
structure State where
  flags : Flags
  inner : Alternatives
  outer : List OpenGroup
  groups : Nat
  names : List (Nat × List Char)

namespace State

def start : State := ⟨{}, ⟨[], []⟩, [], 0, []⟩

def push (state : State) (regex : Regex) (depth : Nat) : State :=
  { state with inner := state.inner.push ⟨regex, depth, true⟩ }

/-- Opens a group that is remembered. -/
def openCapture (state : State) (name : Option (List Char)) : State :=
  let index := state.groups + 1
  { state with
    inner := ⟨[], []⟩
    outer := ⟨some index, state.inner, state.flags⟩ :: state.outer
    groups := index
    names := match name with
      | none => state.names
      | some name => (index, name) :: state.names }

/-- Opens a group that only sets flags for what is in it. -/
def openPlain (state : State) (flags : Flags) : State :=
  { state with
    inner := ⟨[], []⟩
    outer := ⟨none, state.inner, state.flags⟩ :: state.outer
    flags := flags }

/-- Sets flags for the rest of the group. -/
def setFlags (state : State) (flags : Flags) : State :=
  { state with inner := state.inner.push ⟨.empty, 0, false⟩, flags := flags }

/-- Closes the innermost group. -/
def closeGroup? (state : State) : Option State :=
  match state.outer with
  | [] => none
  | group :: outer =>
    let part := state.inner.close
    let regex := match group.index with
      | none => part.regex
      | some index => .capture index part.regex
    some { state with
      inner := group.around.push ⟨regex, part.depth + 1, true⟩
      outer := outer
      flags := group.flags }

/-- Repeats the last part. -/
def repeatLast? (state : State) (least : Nat) (most : Option Nat) (lazily : Bool) : Option State :=
  match state.inner.current with
  | [] => none
  | part :: earlier =>
    if part.repeatable then
      let regex := Regex.repetition part.regex least most (lazily == state.flags.swapGreed)
      some { state with
        inner := { state.inner with current := ⟨regex, part.depth + 1, true⟩ :: earlier } }
    else none

/-- Adds a single character, or all that differ from it only in case. -/
def pushChar? (state : State) (c : Char) (octet : Bool) : Option State :=
  if !state.flags.unicode && octet && 128 ≤ c.toNat then none
  else if !state.flags.unicode && 128 ≤ c.toNat then
    some (state.push (.literal [c]) 0)
  else some (state.push (.ofSet (state.flags.folded (CharSet.singleton c))) 0)

/-- Adds an escape. -/
def pushPrimitive? (state : State) : Primitive → Option State
  | .literal c octet => state.pushChar? c octet
  | .set members => some (state.push (.ofSet members) 0)
  | .place anchor => some (state.push (.anchor anchor) 0)

/-- Adds a dot. -/
def pushAny? (state : State) : Option State :=
  let missing : List (Nat × Nat) :=
    if state.flags.dotMatchesLineFeed then []
    else if state.flags.anyLineEnd then [(10, 10), (13, 13)]
    else [(10, 10)]
  (state.flags.admitted? (CharSet.complement ⟨missing⟩)).map fun set => state.push (.ofSet set) 0

def lineStart (flags : Flags) : Anchor :=
  if !flags.multiLine then .start else if flags.anyLineEnd then .anyLineStart else .lineStart

def lineStop (flags : Flags) : Anchor :=
  if !flags.multiLine then .stop else if flags.anyLineEnd then .anyLineStop else .lineStop

end State

/-- True for a name that a group may have. -/
def isGroupName (name : List Char) : Bool :=
  match name with
  | [] => false
  | first :: rest =>
    (first == '_' || Unicode.isAlphabetic first) &&
      rest.all fun c => c == '_' || c == '.' || c == '[' || c == ']' ||
        Unicode.isAlphabetic c || Unicode.isNumeric c

/-- Opens a named group whose name starts the text. -/
def takeNamedGroup (state : State) (text : List Char) : Option (Taken State text.length) :=
  let name := text.takeWhile (· != '>')
  match found : text.dropWhile (· != '>') with
  | [] => none
  | _ :: rest =>
    if isGroupName name && !(state.names.any fun entry => entry.2 == name) then
      some ⟨state.openCapture (some name), rest, by
        have := (List.dropWhile_sublist (· != '>') (l := text)).length_le
        rw [found] at this
        exact this⟩
    else none

/-- Flags up to a parenthesis, which sets them for the rest of the group, or up to a colon, which
opens a group with them. -/
def takeFlagGroup (state : State) (text : List Char) : Option (Taken State text.length) :=
  let isEnd (c : Char) : Bool := c == ')' || c == ':'
  let written := text.takeWhile fun c => !isEnd c
  match found : text.dropWhile fun c => !isEnd c with
  | [] => none
  | last :: rest =>
    have shorter : rest.length < text.length := by
      have := (List.dropWhile_sublist (fun c => !isEnd c) (l := text)).length_le
      rw [found] at this
      exact this
    if last == ')' && written.isEmpty then none
    else (state.flags.update? written).map fun flags =>
      if last == ')' then ⟨state.setFlags flags, rest, shorter⟩
      else ⟨state.openPlain flags, rest, shorter⟩

/-- What follows an opening parenthesis, up to the first part of the group. -/
def takeGroupHead (state : State) (text : List Char) : Option (Taken State (text.length + 1)) :=
  match found : state.flags.skip text with
  | '?' :: 'P' :: '<' :: rest =>
    (takeNamedGroup state rest).map fun taken =>
      taken.widen (state.flags.length_le_of_skip ['?', 'P', '<'] found)
  | '?' :: '=' :: _ => none
  | '?' :: '!' :: _ => none
  | '?' :: '<' :: '=' :: _ => none
  | '?' :: '<' :: '!' :: _ => none
  | '?' :: '<' :: rest =>
    (takeNamedGroup state rest).map fun taken =>
      taken.widen (state.flags.length_le_of_skip ['?', '<'] found)
  | '?' :: rest =>
    (takeFlagGroup state rest).map fun taken =>
      taken.widen (state.flags.length_le_of_skip ['?'] found)
  | _ =>
    some ⟨state.openCapture none, state.flags.skip text,
      Nat.lt_succ_of_le (state.flags.length_skip_le text)⟩

/-- A question mark that makes a repetition lazy. -/
def takeLazy : List Char → Bool × List Char
  | [] => (false, [])
  | c :: rest => if c = '?' then (true, rest) else (false, c :: rest)

theorem length_takeLazy_le (text : List Char) : (takeLazy text).2.length ≤ text.length := by
  unfold takeLazy
  split
  · exact Nat.le_refl _
  · split
    · exact Nat.le_succ _
    · exact Nat.le_refl _

/-- Repeats the last part as often as the character before the text says. -/
def takeRepeat (state : State) (least : Nat) (most : Option Nat) (text : List Char) :
    Option (Taken State (text.length + 1)) :=
  (state.repeatLast? least most (takeLazy text).1).map fun next =>
    ⟨next, (takeLazy text).2, Nat.lt_succ_of_le (length_takeLazy_le text)⟩

/-- Repeats the last part as often as the bounds in braces say. -/
def takeCounted (state : State) (text : List Char) : Option (Taken State (text.length + 1)) :=
  (takeBounds state.flags text).bind fun bounds =>
    (takeRepeat state bounds.value.1 bounds.value.2 (state.flags.skip bounds.rest)).map fun taken =>
      taken.widen (by
        have := state.flags.length_skip_le bounds.rest
        have := bounds.shorter
        omega)

/-- Takes the next part, operator or bracket of a pattern; `c` is its first character. -/
def takePart (state : State) (c : Char) (rest : List Char) :
    Option (Taken State (rest.length + 1)) :=
  let next (state : State) : Taken State (rest.length + 1) := .nothing state rest
  if c = '(' then takeGroupHead state rest
  else if c = ')' then state.closeGroup?.map next
  else if c = '|' then some (next { state with inner := state.inner.next })
  else if c = '[' then
    let opened := openClass state.flags rest
    (takeClass state.flags opened.1 [] opened.2.1).map fun taken =>
      (taken.map fun (set, depth) => state.push (.ofSet set) (depth + 1)).widen
        (Nat.succ_le_succ opened.2.2)
  else if c = '?' then takeRepeat state 0 (some 1) rest
  else if c = '*' then takeRepeat state 0 none rest
  else if c = '+' then takeRepeat state 1 none rest
  else if c = '{' then takeCounted state rest
  else if c = '\\' then
    (takeEscape state.flags rest).bind fun taken =>
      (state.pushPrimitive? taken.value).map fun state =>
        (taken.map fun _ => state).afterOne
  else if c = '.' then state.pushAny?.map next
  else if c = '^' then some (next (state.push (.anchor (State.lineStart state.flags)) 0))
  else if c = '$' then some (next (state.push (.anchor (State.lineStop state.flags)) 0))
  else (state.pushChar? c false).map next

/-- Reads a pattern to its end. -/
def read (state : State) (text : List Char) : Option State :=
  match found : state.flags.skip text with
  | [] => some state
  | c :: rest =>
    match takePart state c rest with
    | none => none
    | some taken =>
      have : taken.rest.length < text.length := by
        have := state.flags.length_skip_le text
        have := taken.shorter
        simp_all only [List.length_cons]
        omega
      read taken.value taken.rest
termination_by text.length

/-- Constructs may be nested this deeply. -/
def maxDepth : Nat := 250

/-- The expression that a pattern stands for, the number of its groups, and its named groups in
their order; nothing if the pattern is not well-formed or too large. -/
def parse? (pattern : List Char) : Option (Regex × Nat × List (Nat × String)) := do
  let state ← read State.start pattern
  let whole := state.inner.close
  if state.outer.isEmpty && whole.depth ≤ maxDepth && Footprint.fits whole.regex then
    some (whole.regex, state.groups,
      state.names.reverse.map fun entry => (entry.1, String.ofList entry.2))
  else none

end ServerIncludes.PatternReader
