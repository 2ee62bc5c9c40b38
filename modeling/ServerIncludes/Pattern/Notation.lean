import ServerIncludes.Pattern.CharClass
import ServerIncludes.Pattern.Regex
import ServerIncludes.Unicode.PropertyName

/-!
The written parts of patterns: escapes, bracketed classes, counts and flags. Each reader takes its
part off the front of a text and leaves a shorter rest, so that reading a pattern ends.
-/

namespace ServerIncludes.PatternNotation

open Unicode (isBlank)

/-- The settings that flags change while a pattern is read. -/
structure Flags where
  ignoreCase : Bool := false
  multiLine : Bool := false
  dotMatchesLineFeed : Bool := false
  swapGreed : Bool := false
  unicode : Bool := true
  anyLineEnd : Bool := false
  spaced : Bool := false

/-- Something read off the front of a text, and a rest shorter than a bound. -/
structure Taken (α : Type) (bound : Nat) where
  value : α
  rest : List Char
  shorter : rest.length < bound

namespace Taken

theorem length_lt_succ (rest : List Char) : rest.length < rest.length + 1 := Nat.lt_succ_self _

/-- Takes one character. -/
def one (value : α) (c : Char) (rest : List Char) : Taken α (c :: rest).length :=
  ⟨value, rest, length_lt_succ rest⟩

/-- Takes nothing. -/
def nothing (value : α) (text : List Char) : Taken α (text.length + 1) :=
  ⟨value, text, length_lt_succ text⟩

def map (f : α → β) (taken : Taken α bound) : Taken β bound :=
  ⟨f taken.value, taken.rest, taken.shorter⟩

def widen (taken : Taken α bound) (within : bound ≤ larger) : Taken α larger :=
  ⟨taken.value, taken.rest, Nat.lt_of_lt_of_le taken.shorter within⟩

/-- What was taken after one more character. -/
def afterOne (taken : Taken α bound) : Taken α (bound + 1) :=
  ⟨taken.value, taken.rest, Nat.lt_succ_of_lt taken.shorter⟩

end Taken

/-- Leaves out blanks and comments; a comment runs from a number sign to the end of the line. -/
def skipSpace (inComment : Bool) : List Char → List Char
  | [] => []
  | c :: rest =>
    if inComment then skipSpace (c != '\n') rest
    else if isBlank c then skipSpace false rest
    else if c = '#' then skipSpace true rest
    else c :: rest

theorem length_skipSpace_le (inComment : Bool) (text : List Char) :
    (skipSpace inComment text).length ≤ text.length := by
  induction text generalizing inComment with
  | nil => simp [skipSpace]
  | cons c rest ih =>
    unfold skipSpace
    split
    · exact Nat.le_succ_of_le (ih _)
    · split
      · exact Nat.le_succ_of_le (ih _)
      · split
        · exact Nat.le_succ_of_le (ih _)
        · exact Nat.le_refl _

namespace Flags

/-- Leaves out what does not count between the parts of a pattern. -/
def skip (flags : Flags) (text : List Char) : List Char :=
  if flags.spaced then skipSpace false text else text

theorem length_skip_le (flags : Flags) (text : List Char) :
    (flags.skip text).length ≤ text.length := by
  unfold skip
  split
  · exact length_skipSpace_le _ _
  · exact Nat.le_refl _

/-- The character after blanks and a number sign: unlike where parts are left out, a comment does
not reach beyond its number sign here. -/
def peek (flags : Flags) (text : List Char) : Option Char :=
  if flags.spaced then
    match text.dropWhile isBlank with
    | '#' :: rest => (rest.dropWhile isBlank).head?
    | other => other.head?
  else text.head?

/-- Closes a set under case if the flags ask for it. -/
def folded (flags : Flags) (set : CharSet) : CharSet :=
  if flags.ignoreCase then CharClass.foldCase (!flags.unicode) set else set

/-- The set as it is allowed to stand: without Unicode only sets of ASCII characters are. -/
def admitted? (flags : Flags) (set : CharSet) : Option CharSet :=
  if flags.unicode || set.ranges.all fun range => range.2 < 128 then some set else none

end Flags

/-- Takes the digits at the front of a text. -/
def takeDigits (flags : Flags) (text : List Char) : List Char × List Char :=
  match text with
  | [] => ([], [])
  | c :: rest =>
    if c.isDigit then
      let later := takeDigits flags (flags.skip rest)
      (c :: later.1, later.2)
    else ([], c :: rest)
termination_by text.length
decreasing_by
  have := flags.length_skip_le rest
  simp only [List.length_cons]; omega

theorem length_takeDigits_le (flags : Flags) (text : List Char) :
    (takeDigits flags text).2.length ≤ text.length := by
  fun_induction takeDigits flags text with
  | case1 => simp
  | case2 c rest digit later ih =>
    have := flags.length_skip_le rest
    exact Nat.le_succ_of_le (Nat.le_trans ih this)
  | case3 => simp

/-- What follows some characters after blanks and comments. -/
theorem Flags.length_le_of_skip (flags : Flags) {text rest : List Char} (taken : List Char)
    (found : flags.skip text = taken ++ rest) : rest.length ≤ text.length + 1 := by
  have := flags.length_skip_le text
  rw [found, List.length_append] at this
  omega

/-- Reads a decimal number with blanks around it. -/
def takeNumber (flags : Flags) (text : List Char) : Option Nat × List Char :=
  let (digits, rest) := takeDigits flags (text.dropWhile isBlank)
  let number := digits.foldl (fun n c => n * 10 + (c.toNat - 48)) 0
  (if digits.isEmpty || 4294967296 ≤ number then none else some number, rest.dropWhile isBlank)

theorem length_takeNumber_le (flags : Flags) (text : List Char) :
    (takeNumber flags text).2.length ≤ text.length := by
  have first := (List.dropWhile_sublist isBlank (l := text)).length_le
  have second := length_takeDigits_le flags (text.dropWhile isBlank)
  have third :=
    (List.dropWhile_sublist isBlank
      (l := (takeDigits flags (text.dropWhile isBlank)).2)).length_le
  simp only [takeNumber]
  omega

/-- The bounds of a counted repetition, whose opening brace is taken already. -/
def takeBounds (flags : Flags) (text : List Char) :
    Option (Taken (Nat × Option Nat) text.length) :=
  let low := takeNumber flags (flags.skip text)
  have lowShort : low.2.length ≤ text.length :=
    Nat.le_trans (length_takeNumber_le _ _) (flags.length_skip_le _)
  match found : low.2 with
  | '}' :: rest =>
    low.1.map fun n => ⟨(n, some n), rest, by rw [found] at lowShort; exact lowShort⟩
  | ',' :: rest =>
    have restShort : (flags.skip rest).length < text.length := by
      rw [found] at lowShort
      exact Nat.lt_of_le_of_lt (flags.length_skip_le _) lowShort
    match opened : flags.skip rest with
    | '}' :: rest' =>
      low.1.map fun n => ⟨(n, none), rest', by
        rw [opened] at restShort
        exact Nat.lt_of_succ_lt restShort⟩
    | _ =>
      let high := takeNumber flags (flags.skip rest)
      have highShort : high.2.length < text.length :=
        Nat.lt_of_le_of_lt (length_takeNumber_le _ _) restShort
      match ended : high.2 with
      | '}' :: rest' =>
        match low.1, high.1 with
        | some n, some m =>
          if n ≤ m then
            some ⟨(n, some m), rest', by
              rw [ended] at highShort
              exact Nat.lt_of_succ_lt highShort⟩
          else none
        | _, _ => none
      | _ => none
  | _ => none

/-- Takes the characters up to a closing brace, which is taken too. -/
def takeBraced (flags : Flags) (text : List Char) : Option (Taken (List Char) text.length) :=
  match found : flags.skip text with
  | [] => none
  | '}' :: rest =>
    some ⟨[], rest, by have := flags.length_skip_le text; rw [found] at this; exact this⟩
  | c :: rest =>
    have shorter : rest.length < text.length := by
      have := flags.length_skip_le text
      rw [found] at this
      exact this
    (takeBraced flags rest).map fun taken =>
      (taken.map (c :: ·)).widen (Nat.le_of_lt shorter)
termination_by text.length

def isHexDigit (c : Char) : Bool :=
  c.isDigit || ('a' ≤ c && c ≤ 'f') || ('A' ≤ c && c ≤ 'F')

/-- The value of hexadecimal digits. -/
def hexValue (digits : List Char) : Nat :=
  digits.foldl (fun n c =>
    n * 16 + (if c.isDigit then c.toNat - 48 else if 'a' ≤ c then c.toNat - 87 else c.toNat - 55)) 0

/-- The character with a code point, if it is that of a character. -/
def charOfCode? (code : Nat) : Option Char :=
  if code.isValidChar then some (Char.ofNat code) else none

/-- Takes exactly so many hexadecimal digits. -/
def takeHexDigits (flags : Flags) (text : List Char) :
    Nat → Option (List Char × { rest : List Char // rest.length ≤ text.length })
  | 0 => some ([], ⟨flags.skip text, flags.length_skip_le text⟩)
  | count + 1 =>
    match found : flags.skip text with
    | [] => none
    | c :: rest =>
      if isHexDigit c then
        (takeHexDigits flags rest count).map fun (digits, later) =>
          (c :: digits, ⟨later.1, by
            have := flags.length_skip_le text
            rw [found] at this
            exact Nat.le_trans later.2 (Nat.le_of_succ_le this)⟩)
      else none

/-- A single step of a pattern. -/
inductive Primitive where
  /-- A character; `octet` tells one that is written as two hexadecimal digits. -/
  | literal (c : Char) (octet : Bool)
  | set (members : CharSet)
  | place (anchor : Anchor)

/-- The character whose code point is written in hexadecimal: `width` digits, or any number of
them in braces. -/
def takeHexChar (flags : Flags) (width : Nat) (text : List Char) :
    Option (Taken Char (text.length + 1)) :=
  match found : flags.skip text with
  | '{' :: rest =>
    (takeBraced flags rest).bind fun taken =>
      if taken.value.isEmpty || !taken.value.all isHexDigit then none
      else (charOfCode? (hexValue taken.value)).map fun c =>
        ⟨c, flags.skip taken.rest, by
          have := flags.length_skip_le text
          have := flags.length_skip_le taken.rest
          have := taken.shorter
          simp_all only [List.length_cons]
          omega⟩
  | _ =>
    (takeHexDigits flags text width).bind fun (digits, rest) =>
      (charOfCode? (hexValue digits)).map fun c => ⟨c, rest.1, Nat.lt_succ_of_le rest.2⟩

/-- Splits at the first occurrence of a separator. -/
def splitAt? (separator : List Char) : List Char → Option (List Char × List Char)
  | [] => none
  | c :: rest =>
    if separator.isPrefixOf (c :: rest) then some ([], (c :: rest).drop separator.length)
    else (splitAt? separator rest).map fun (before, after) => (c :: before, after)

/-- The characters that a property in braces asks for, and whether it asks for all others. -/
def property? (text : List Char) : Option (Bool × CharSet) :=
  match splitAt? ['!', '='] text with
  | some (name, value) => (Unicode.valued? name value).map (true, ·)
  | none =>
    match (splitAt? [':'] text).or (splitAt? ['='] text) with
    | some (name, value) => (Unicode.valued? name value).map (false, ·)
    | none => (Unicode.named? text).map (false, ·)

/-- The property that follows an escaped letter, named by one letter or in braces. -/
def takeProperty (flags : Flags) (text : List Char) :
    Option (Taken (Bool × CharSet) text.length) :=
  match found : flags.skip text with
  | [] => none
  | c :: rest =>
    have shorter : rest.length < text.length := by
      have := flags.length_skip_le text
      rw [found] at this
      exact this
    if c = '{' then
      (takeBraced flags rest).bind fun taken =>
        (property? taken.value).map fun asked =>
          ⟨asked, taken.rest, Nat.lt_trans taken.shorter shorter⟩
    else if c = '\\' then none
    else (Unicode.named? [c]).map fun set =>
      ⟨(false, set), flags.skip rest, Nat.lt_of_le_of_lt (flags.length_skip_le rest) shorter⟩

/-- The kind of word boundary that is named in braces. -/
def boundary? (name : List Char) (ascii : Bool) : Option Anchor :=
  if name = "start".toList then some (.wordStart ascii)
  else if name = "end".toList then some (.wordStop ascii)
  else if name = "start-half".toList then some (.noWordBefore ascii)
  else if name = "end-half".toList then some (.noWordAfter ascii)
  else none

theorem length_tail_le_succ (text : List Char) : text.tail.length ≤ text.length + 1 := by
  rw [List.length_tail]
  omega

/-- A word boundary, with its kind in braces if they hold a name; braces that hold a count are
left for the repetition. -/
def takeBoundary (flags : Flags) (text : List Char) :
    Option (Taken Primitive (text.length + 1)) :=
  let plain := Taken.nothing (Primitive.place (.wordBoundary (!flags.unicode))) text
  if text.head? = some '{' then
    match (flags.skip text.tail).head? with
    | none => none
    | some c =>
      if c.isAlpha || c == '-' then
        (takeBraced flags text.tail).bind fun taken =>
          (boundary? taken.value (!flags.unicode)).map fun place =>
            (taken.map fun _ => Primitive.place place).widen (length_tail_le_succ text)
      else some plain
  else some plain

/-- Characters that stand for others after a backslash. -/
def controlEscape? (c : Char) : Option Char :=
  if c = 'a' then some (Char.ofNat 7)
  else if c = 'f' then some (Char.ofNat 12)
  else if c = 't' then some '\t'
  else if c = 'n' then some '\n'
  else if c = 'r' then some '\r'
  else if c = 'v' then some (Char.ofNat 11)
  else none

/-- Reads an escape whose backslash is taken already. -/
def takeEscape (flags : Flags) (text : List Char) : Option (Taken Primitive text.length) :=
  match text with
  | [] => none
  | c :: rest =>
    let place (anchor : Anchor) : Option (Taken Primitive (c :: rest).length) :=
      some (.one (.place anchor) c rest)
    if c.isDigit then none
    else if c = 'x' then
      (takeHexChar flags 2 rest).map fun taken =>
        taken.map fun found => .literal found ((flags.skip rest).head? != some '{')
    else if c = 'u' then (takeHexChar flags 4 rest).map fun taken => taken.map (.literal · false)
    else if c = 'U' then (takeHexChar flags 8 rest).map fun taken => taken.map (.literal · false)
    else if c = 'p' ∨ c = 'P' then
      if !flags.unicode then none
      else (takeProperty flags rest).map fun taken =>
        (taken.map fun (negated, set) =>
          let members := flags.folded set
          Primitive.set (if negated = (c = 'P') then members else members.complement)).afterOne
    else
      match CharClass.escaped? c.toLower (!flags.unicode) with
      | some set =>
        (flags.admitted? (if c.isUpper then set.complement else set)).map fun members =>
          .one (.set members) c rest
      | none =>
        if c = 'A' then place .start
        else if c = 'z' then place .stop
        else if c = 'b' then takeBoundary flags rest
        else if c = 'B' then place (.insideWord (!flags.unicode))
        else if c = '<' then place (.wordStart (!flags.unicode))
        else if c = '>' then place (.wordStop (!flags.unicode))
        else
          match controlEscape? c with
          | some found => some (.one (.literal found false) c rest)
          | none =>
            if c.toNat < 128 && !c.isAlphanum then some (.one (.literal c false) c rest)
            else none

/-- How two halves of a bracketed class are combined. -/
inductive ClassOperation where
  | intersection
  | difference
  | symmetricDifference

/-- A bracketed class being read: the half before the last operator and the members since. The
depth of a part is the number of constructs nested in it. -/
structure OpenClass where
  negated : Bool
  before : Option (CharSet × ClassOperation × Nat)
  members : List (Nat × Nat)
  /-- The number of items that the members were written as. -/
  items : Nat
  /-- The depth of the deepest of these items. -/
  deepest : Nat

namespace OpenClass

def start (negated : Bool) : OpenClass := ⟨negated, none, [], 0, 0⟩

/-- The members so far, combined with the half before them. -/
def combined (opened : OpenClass) (flags : Flags) : CharSet :=
  let members := CharSet.ofRanges opened.members
  match opened.before with
  | none => members
  | some (left, operation, _) =>
    let left := flags.folded left
    let right := flags.folded members
    match operation with
    | .intersection => left.inter right
    | .difference => left.diff right
    | .symmetricDifference => left.symmDiff right

/-- The depth of what has been read: several items count as one construct around them, and so does
an operator. -/
def depth (opened : OpenClass) : Nat :=
  let half := if opened.items ≤ 1 then opened.deepest else opened.deepest + 1
  match opened.before with
  | none => half
  | some (_, _, left) => max left half + 1

/-- Starts the half after an operator. -/
def operate (opened : OpenClass) (flags : Flags) (operation : ClassOperation) : OpenClass :=
  ⟨opened.negated, some (opened.combined flags, operation, opened.depth), [], 0, 0⟩

/-- Adds an item of some depth. -/
def add (opened : OpenClass) (ranges : List (Nat × Nat)) (depth : Nat) : OpenClass :=
  { opened with
    members := ranges ++ opened.members
    items := opened.items + 1
    deepest := max opened.deepest depth }

/-- The set that the class stands for. -/
def close? (opened : OpenClass) (flags : Flags) : Option CharSet :=
  let set := flags.folded (opened.combined flags)
  flags.admitted? (if opened.negated then set.complement else set)

end OpenClass

/-- Takes hyphens at the start of a class, which stand for themselves. -/
def takeHyphens (flags : Flags) (opened : OpenClass) (text : List Char) :
    OpenClass × { rest : List Char // rest.length ≤ text.length } :=
  match found : flags.skip text with
  | '-' :: rest =>
    have shorter : rest.length < text.length := by
      have := flags.length_skip_le text
      rw [found] at this
      exact this
    let later := takeHyphens flags (opened.add [(45, 45)] 0) rest
    (later.1, ⟨later.2.1, Nat.le_trans later.2.2 (Nat.le_of_lt shorter)⟩)
  | _ => (opened, ⟨flags.skip text, flags.length_skip_le text⟩)
termination_by text.length

/-- The start of a bracketed class whose bracket is taken already: an optional caret, hyphens, and
a bracket that closes nothing because the class is still empty. -/
def openClass (flags : Flags) (text : List Char) :
    OpenClass × { rest : List Char // rest.length ≤ text.length } :=
  let start : Bool × { rest : List Char // rest.length ≤ text.length } :=
    match found : flags.skip text with
    | '^' :: rest => (true, ⟨rest, by
        have := flags.length_skip_le text
        rw [found] at this
        exact Nat.le_of_succ_le this⟩)
    | _ => (false, ⟨flags.skip text, flags.length_skip_le text⟩)
  let hyphens := takeHyphens flags (.start start.1) start.2.1
  have within : hyphens.2.1.length ≤ text.length := Nat.le_trans hyphens.2.2 start.2.2
  match found : hyphens.2.1 with
  | ']' :: rest =>
    if hyphens.1.members.isEmpty then
      (hyphens.1.add [(93, 93)] 0, ⟨rest, by rw [found] at within; exact Nat.le_of_succ_le within⟩)
    else (hyphens.1, ⟨']' :: rest, by rw [found] at within; exact within⟩)
  | other => (hyphens.1, ⟨other, by rw [found] at within; exact within⟩)

/-- A class named between colons, whose opening bracket is taken already, and whether all other
characters are meant. -/
def takeNamedClass (text : List Char) : Option (Taken (Bool × CharSet) text.length) :=
  match text with
  | ':' :: rest =>
    let negated := rest.head? == some '^'
    let body := if negated then rest.tail else rest
    have bodyShort : body.length ≤ rest.length := by
      simp only [body]
      split
      · simp
      · exact Nat.le_refl _
    match found : body.dropWhile (· != ':') with
    | ':' :: ']' :: rest' =>
      (CharClass.bracketed? (body.takeWhile (· != ':'))).map fun set =>
        ⟨(negated, set), rest', by
          have := (List.dropWhile_sublist (· != ':') (l := body)).length_le
          rw [found] at this
          simp only [List.length_cons] at this ⊢
          omega⟩
    | _ => none
  | _ => none

/-- The set that a class named between colons stands for, if the flags admit it. -/
def Flags.namedSet? (flags : Flags) (negated : Bool) (set : CharSet) : Option CharSet :=
  let members := flags.folded set
  flags.admitted? (if negated then members.complement else members)

/-- One member of a bracketed class: an escape or a character that stands for itself. -/
def takeClassItem (flags : Flags) (text : List Char) : Option (Taken Primitive text.length) :=
  match text with
  | [] => none
  | '\\' :: rest => (takeEscape flags rest).map Taken.afterOne
  | c :: rest => some (.one (.literal c false) c rest)

/-- The code point that a literal stands for, if the flags admit it in a class. -/
def classCode? (flags : Flags) : Primitive → Option Nat
  | .literal c _ => if flags.unicode || c.toNat < 128 then some c.toNat else none
  | _ => none

/-- The ranges that a member of a class adds. -/
def classRanges? (flags : Flags) : Primitive → Option (List (Nat × Nat))
  | .set members => some members.ranges
  | item => (classCode? flags item).map fun code => [(code, code)]

/-- A member or a range of members of a bracketed class. -/
def takeClassRange (flags : Flags) (text : List Char) :
    Option (Taken (List (Nat × Nat)) text.length) :=
  (takeClassItem flags text).bind fun first =>
    have skipShort : (flags.skip first.rest).length < text.length :=
      Nat.lt_of_le_of_lt (flags.length_skip_le _) first.shorter
    match found : flags.skip first.rest with
    | [] => none
    | c :: rest =>
      let next := flags.peek rest
      if c ≠ '-' ∨ next = some ']' ∨ next = some '-' then
        (classRanges? flags first.value).map fun ranges =>
          ⟨ranges, c :: rest, by rw [found] at skipShort; exact skipShort⟩
      else
        have restShort : (flags.skip rest).length < text.length := by
          have := flags.length_skip_le rest
          rw [found] at skipShort
          simp only [List.length_cons] at skipShort
          omega
        (takeClassItem flags (flags.skip rest)).bind fun second =>
          match classCode? flags first.value, classCode? flags second.value with
          | some low, some high =>
            if low ≤ high then
              some ⟨[(low, high)], second.rest, Nat.lt_trans second.shorter restShort⟩
            else none
          | _, _ => none

/-- Reads the rest of a bracketed class; `outer` holds the classes around it, innermost first.
Gives the set and its depth. -/
def takeClass (flags : Flags) (opened : OpenClass) (outer : List OpenClass) (text : List Char) :
    Option (Taken (CharSet × Nat) (text.length + 1)) :=
  have skipShort := flags.length_skip_le text
  match found : flags.skip text with
  | [] => none
  | c :: rest =>
    have restShort : rest.length < text.length := by rw [found] at skipShort; exact skipShort
    if c = '[' then
      match takeNamedClass rest with
      | some named =>
        have namedShort : named.rest.length < text.length := Nat.lt_trans named.shorter restShort
        (flags.namedSet? named.value.1 named.value.2).bind fun set =>
          (takeClass flags (opened.add set.ranges 0) outer named.rest).map fun taken =>
            taken.widen (by omega)
      | none =>
        let inner := openClass flags rest
        have innerShort : inner.2.1.length < text.length := Nat.lt_of_le_of_lt inner.2.2 restShort
        (takeClass flags inner.1 (opened :: outer) inner.2.1).map fun taken =>
          taken.widen (by omega)
    else if c = ']' then
      (opened.close? flags).bind fun set =>
        match outer with
        | [] => some ⟨(set, opened.depth), rest, Nat.lt_succ_of_lt restShort⟩
        | around :: outer =>
          (takeClass flags (around.add set.ranges (opened.depth + 1)) outer rest).map fun taken =>
            taken.widen (by omega)
    else
      let operation : Option ClassOperation :=
        if rest.head? ≠ some c then none
        else if c = '&' then some .intersection
        else if c = '-' then some .difference
        else if c = '~' then some .symmetricDifference
        else none
      match operation with
      | some operation =>
        have tailShort : rest.tail.length < text.length := by
          simp only [List.length_tail]
          omega
        (takeClass flags (opened.operate flags operation) outer rest.tail).map fun taken =>
          taken.widen (by omega)
      | none =>
        (takeClassRange flags (c :: rest)).bind fun item =>
          have itemShort : item.rest.length < text.length := by
            have := item.shorter
            simp only [List.length_cons] at this
            omega
          (takeClass flags (opened.add item.value 0) outer item.rest).map fun taken =>
            taken.widen (by omega)
termination_by text.length

/-- The flags after those written have taken effect, if they are written soundly: known letters
without repeats, at most one minus sign, and not at the end. -/
def Flags.update? (flags : Flags) (written : List Char) : Option Flags :=
  let set (flag : Char) (value : Bool) (flags : Flags) : Option Flags :=
    if flag = 'i' then some { flags with ignoreCase := value }
    else if flag = 'm' then some { flags with multiLine := value }
    else if flag = 's' then some { flags with dotMatchesLineFeed := value }
    else if flag = 'U' then some { flags with swapGreed := value }
    else if flag = 'u' then some { flags with unicode := value }
    else if flag = 'R' then some { flags with anyLineEnd := value }
    else if flag = 'x' then some { flags with spaced := value }
    else none
  let off := written.contains '-'
  let on := written.takeWhile (· != '-')
  let negated := (written.dropWhile (· != '-')).drop 1
  if (off && negated.isEmpty) || negated.contains '-' || !(on ++ negated).Nodup then none
  else do
    let flags ← on.foldlM (fun flags flag => set flag true flags) flags
    negated.foldlM (fun flags flag => set flag false flags) flags

end ServerIncludes.PatternNotation
