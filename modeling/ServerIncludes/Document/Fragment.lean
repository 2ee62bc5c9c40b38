import ServerIncludes.Text.Utf8

/-!
Documents as fragments: literal text and tags, in order. A tag runs from its opener to the first
closer outside double quotes; inside quotes a backslash protects the octet after it. Fragments and
what is left after them spell the document, and a span says where in it a fragment stands.
-/

namespace ServerIncludes

/-- Octets `start` up to and without `stop` of a document. -/
structure Span where
  start : Nat
  stop : Nat
  deriving DecidableEq, Repr

namespace Span

def length (span : Span) : Nat := span.stop - span.start

def isEmpty (span : Span) : Bool := span.start == span.stop

end Span

/-- A piece of a document. A tag is held without its opener and closer. -/
inductive Fragment where
  | literal (bytes : Bytes)
  | tag (body : Bytes)
  deriving DecidableEq, Repr

namespace Fragment

/-- What starts a tag: `<!--#`. -/
def opener : Bytes := [0x3C, 0x21, 0x2D, 0x2D, 0x23]

/-- What ends a tag: `-->`. -/
def closer : Bytes := [0x2D, 0x2D, 0x3E]

def quoteMark : UInt8 := 0x22

def backslash : UInt8 := 0x5C

/-- The octets of the document that a fragment is made of. -/
def source : Fragment → Bytes
  | literal bytes => bytes
  | tag body => opener ++ body ++ closer

def size (fragment : Fragment) : Nat := fragment.source.length

/-- What a fragment holds: all of a literal, and a tag between opener and closer. -/
def body : Fragment → Bytes
  | literal bytes => bytes
  | tag body => body

def isTag : Fragment → Bool
  | literal _ => false
  | tag _ => true

/-- Splits at the first closer outside quotes: what is before it and what is after it. -/
def splitAtCloser (quoted : Bool) : Bytes → Option (Bytes × Bytes)
  | [] => none
  | octet :: rest =>
    if quoted then
      if octet = backslash then
        match rest with
        | [] => none
        | next :: rest =>
          (splitAtCloser true rest).map fun (before, after) => (octet :: next :: before, after)
      else
        (splitAtCloser (octet != quoteMark) rest).map fun (before, after) =>
          (octet :: before, after)
    else if closer.isPrefixOf (octet :: rest) then some ([], (octet :: rest).drop closer.length)
    else
      (splitAtCloser (octet == quoteMark) rest).map fun (before, after) => (octet :: before, after)

/-- Splits before the first opener, or at the end if there is none. -/
def splitAtOpener : Bytes → Bytes × Bytes
  | [] => ([], [])
  | octet :: rest =>
    if opener.isPrefixOf (octet :: rest) then ([], octet :: rest)
    else let (before, after) := splitAtOpener rest; (octet :: before, after)

theorem length_of_splitAtCloser {quoted : Bool} {bytes before after : Bytes}
    (split : splitAtCloser quoted bytes = some (before, after)) :
    after.length ≤ bytes.length := by
  fun_induction splitAtCloser quoted bytes generalizing before after with
  | case1 => cases split
  | case2 => cases split
  | case3 next rest ih =>
    obtain ⟨⟨_, _⟩, found, same⟩ := Option.map_eq_some_iff.1 split
    cases same
    have := ih found
    simp only [List.length_cons]
    omega
  | case4 octet rest _ ih =>
    obtain ⟨⟨_, _⟩, found, same⟩ := Option.map_eq_some_iff.1 split
    cases same
    exact Nat.le_succ_of_le (ih found)
  | case5 =>
    cases split
    simp
  | case6 =>
    rename_i ih
    obtain ⟨⟨_, _⟩, found, same⟩ := Option.map_eq_some_iff.1 split
    cases same
    exact Nat.le_succ_of_le (ih found)

theorem length_splitAtOpener_le (bytes : Bytes) :
    (splitAtOpener bytes).2.length ≤ bytes.length := by
  induction bytes with
  | nil => simp [splitAtOpener]
  | cons octet rest ih =>
    unfold splitAtOpener
    split
    · simp
    · exact Nat.le_succ_of_le ih

end Fragment

/-- A document in fragments. `rest` is what is left from an opener on whose tag never ends; it is
empty if there is none. -/
structure Fragments where
  list : List Fragment
  rest : Bytes
  deriving DecidableEq, Repr

namespace Fragments

def push (fragment : Fragment) (fragments : Fragments) : Fragments :=
  ⟨fragment :: fragments.list, fragments.rest⟩

/-- Splits a document into fragments. -/
def scan (document : Bytes) : Fragments :=
  match document with
  | [] => ⟨[], []⟩
  | octet :: rest =>
    if Fragment.opener.isPrefixOf (octet :: rest) then
      match found : Fragment.splitAtCloser false (rest.drop 4) with
      | none => ⟨[], octet :: rest⟩
      | some (body, after) =>
        have : after.length < (octet :: rest).length := by
          have := Fragment.length_of_splitAtCloser found
          simp only [List.length_drop, List.length_cons] at this ⊢
          omega
        (scan after).push (.tag body)
    else
      have : (Fragment.splitAtOpener rest).2.length < (octet :: rest).length :=
        Nat.lt_succ_of_le (Fragment.length_splitAtOpener_le rest)
      (scan (Fragment.splitAtOpener rest).2).push
        (.literal (octet :: (Fragment.splitAtOpener rest).1))
termination_by document.length
decreasing_by all_goals (simp only [List.length_cons] at *; omega)

/-- The octets in all fragments together. -/
def size : List Fragment → Nat
  | [] => 0
  | fragment :: rest => fragment.size + size rest

/-- Fragments with the places they stand at, the first one at `start`. -/
def place (start : Nat) : List Fragment → List (Span × Fragment)
  | [] => []
  | fragment :: rest =>
    (⟨start, start + fragment.size⟩, fragment) :: place (start + fragment.size) rest

/-- The fragments with their spans. -/
def placed (fragments : Fragments) : List (Span × Fragment) := place 0 fragments.list

/-- Where a tag starts that never ends. -/
def unterminated? (fragments : Fragments) : Option Nat :=
  if fragments.rest.isEmpty then none else some (size fragments.list)

end Fragments

end ServerIncludes
