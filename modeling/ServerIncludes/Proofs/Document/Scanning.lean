import Mathlib.Data.List.Chain
import ServerIncludes.Document.Assembly

/-! Scanning cuts a document into spans that tile it up to its end, or up to a tag that never ends.
Where a tag ends is said without the scanner: at the first closer that a reader of quotes, who goes
through the tag octet by octet, meets outside of them. -/
namespace ServerIncludes.Scanning
open Fragment (opener closer quoteMark backslash source splitAtCloser splitAtOpener)
open Fragments (scan place)

/-- Where a reader of a tag stands: outside quotes, inside them, or inside them right behind a
backslash, which protects the next octet. -/
inductive QuoteState where
  | outside
  | inside
  | escaped
  deriving DecidableEq

namespace QuoteState

/-- Goes past one octet. -/
def read : QuoteState → UInt8 → QuoteState
  | outside, octet => if octet = quoteMark then inside else outside
  | inside, octet =>
    if octet = backslash then escaped else if octet = quoteMark then outside else inside
  | escaped, _ => inside

/-- Where a reader stands who has gone through some octets. -/
def after (state : QuoteState) (octets : Bytes) : QuoteState := octets.foldl read state

@[simp] theorem after_nil (state : QuoteState) : state.after [] = state := rfl

@[simp] theorem after_cons (state : QuoteState) (octet : UInt8) (octets : Bytes) :
    state.after (octet :: octets) = (state.read octet).after octets := rfl

end QuoteState

/-- A closer stands at a place of a text, and a reader who started in a state is outside quotes
there. -/
def ClosesFrom (state : QuoteState) (text : Bytes) (place : Nat) : Prop :=
  closer <+: text.drop place ∧ state.after (text.take place) = .outside

/-- The first place at which the text of a tag can end. -/
def FirstCloser (text : Bytes) (place : Nat) : Prop :=
  ClosesFrom .outside text place ∧ ∀ earlier < place, ¬ ClosesFrom .outside text earlier

theorem closes_from_zero (state : QuoteState) (text : Bytes) :
    ClosesFrom state text 0 ↔ closer <+: text ∧ state = .outside := by
  simp [ClosesFrom]

theorem closes_from_succ (state : QuoteState) (octet : UInt8) (text : Bytes) (place : Nat) :
    ClosesFrom state (octet :: text) (place + 1) ↔ ClosesFrom (state.read octet) text place := by
  simp [ClosesFrom]

theorem not_closes_from_nil (state : QuoteState) (place : Nat) : ¬ ClosesFrom state [] place := by
  simp [ClosesFrom, closer]

/-- The state that the search for a closer starts from. -/
def quoteStart (quoted : Bool) : QuoteState := if quoted then .inside else .outside

/-- What a search for the first closer has to yield: the text before it and after it, if there is
one. -/
def Splits (state : QuoteState) (text : Bytes) : Option (Bytes × Bytes) → Prop
  | none => ∀ place, ¬ ClosesFrom state text place
  | some (before, after) => text = before ++ closer ++ after ∧
    ClosesFrom state text before.length ∧ ∀ place < before.length, ¬ ClosesFrom state text place

/-- An octet at which nothing closes is passed over. -/
theorem splits_cons {octet : UInt8} (open_ : ¬ ClosesFrom state (octet :: text) 0)
    (later : Splits (state.read octet) text found) :
    Splits state (octet :: text) (found.map fun (before, after) => (octet :: before, after)) := by
  cases found with
  | none =>
    intro place
    cases place with
    | zero => exact open_
    | succ place => exact fun closes => later place ((closes_from_succ ..).1 closes)
  | some parts =>
    obtain ⟨spelled, closes, first⟩ := later
    refine ⟨congrArg (octet :: ·) spelled, (closes_from_succ ..).2 closes, ?_⟩
    intro place before
    cases place with
    | zero => exact open_
    | succ place =>
      exact fun earlier => first place (Nat.lt_of_succ_lt_succ before)
        ((closes_from_succ ..).1 earlier)

/-- The search finds the first closer outside quotes, however its backslashes make it jump. -/
theorem split_at_closer_splits (quoted : Bool) (text : Bytes) :
    Splits (quoteStart quoted) text (splitAtCloser quoted text) := by
  fun_induction splitAtCloser quoted text with
  | case1 quoted => exact fun place => not_closes_from_nil _ place
  | case2 =>
    -- a backslash is the last octet of an open quote
    have nothing : Splits (.read .inside backslash) [] none :=
      fun place => not_closes_from_nil _ place
    exact splits_cons (by simp [closes_from_zero]) nothing
  | case3 next rest ih =>
    -- a backslash and the octet that it protects
    have later : Splits (.read .escaped next) rest (splitAtCloser true rest) := ih
    have behind : Splits (.read .inside backslash) (next :: rest) _ :=
      splits_cons (by simp [closes_from_zero, QuoteState.read]) later
    have both := splits_cons (by simp [closes_from_zero]) behind
    simpa [Option.map_map, Function.comp_def, quoteStart] using both
  | case4 octet rest plain ih =>
    refine splits_cons (by simp [closes_from_zero, quoteStart]) ?_
    have state : (quoteStart true).read octet = quoteStart (octet != quoteMark) := by
      by_cases mark : octet = quoteMark
      · subst mark
        rfl
      · simp [quoteStart, QuoteState.read, plain, mark]
    exact state ▸ ih
  | case5 quoted octet rest unquoted closes =>
    have outside : quoteStart quoted = .outside := by simp [quoteStart, unquoted]
    have prefixed := List.isPrefixOf_iff_prefix.1 closes
    refine ⟨?_, (closes_from_zero ..).2 ⟨prefixed, outside⟩, by simp⟩
    simpa using (List.prefix_iff_eq_append.1 prefixed).symm
  | case6 quoted octet rest unquoted apart ih =>
    have outside : quoteStart quoted = .outside := by simp [quoteStart, unquoted]
    rw [List.isPrefixOf_iff_prefix] at apart
    refine splits_cons (fun closes => apart ((closes_from_zero ..).1 closes).1) ?_
    have state : (quoteStart quoted).read octet = quoteStart (octet == quoteMark) := by
      rw [outside]
      simp [QuoteState.read, quoteStart]
    exact state ▸ ih

theorem first_closer_of_split (found : splitAtCloser false text = some (before, after)) :
    text = before ++ closer ++ after ∧ FirstCloser text before.length := by
  have splits := split_at_closer_splits false text
  rw [found] at splits
  exact splits

theorem unclosed_of_split (missing : splitAtCloser false text = none) (place : Nat) :
    ¬ ClosesFrom .outside text place := by
  have splits := split_at_closer_splits false text
  rw [missing] at splits
  exact splits place

/-- The text before the first opener holds none, and what is left is empty or starts with one. -/
theorem split_at_opener_splits (text : Bytes) :
    (splitAtOpener text).1 ++ (splitAtOpener text).2 = text ∧
      ((splitAtOpener text).2 = [] ∨ opener <+: (splitAtOpener text).2) ∧
      ∀ octet, ¬ opener <+: octet :: text → ¬ opener <:+: octet :: (splitAtOpener text).1 := by
  induction text with
  | nil =>
    refine ⟨rfl, .inl rfl, fun octet apart infixed => apart ?_⟩
    exact (List.infix_cons_iff.1 infixed).resolve_right (by simp [splitAtOpener, opener])
  | cons first rest ih =>
    obtain ⟨spelled, ends, free⟩ := ih
    unfold splitAtOpener
    split
    · rename_i opens
      refine ⟨rfl, .inr (List.isPrefixOf_iff_prefix.1 opens), fun octet apart infixed => apart ?_⟩
      have here := (List.infix_cons_iff.1 infixed).resolve_right (by simp [opener])
      exact here.trans (List.prefix_append [octet] (first :: rest))
    · rename_i apartFirst
      rw [List.isPrefixOf_iff_prefix] at apartFirst
      refine ⟨congrArg (first :: ·) spelled, ends, fun octet apart infixed => ?_⟩
      rcases List.infix_cons_iff.1 infixed with here | later
      · refine apart (here.trans ?_)
        simpa [spelled] using List.prefix_append (octet :: first :: (splitAtOpener rest).1)
          (splitAtOpener rest).2
      · exact free first apartFirst later

/-- The octets that fragments, and what is left after them, were cut from. -/
def spelled (list : List Fragment) (rest : Bytes) : Bytes := list.flatMap source ++ rest

/-- Fragments as a document has to be cut into them, and what may be left: nothing, or an opener
whose tag never ends. -/
def Cut : List Fragment → Bytes → Prop
  | [], rest => rest = [] ∨
    opener <+: rest ∧ ∀ place, ¬ ClosesFrom .outside (rest.drop opener.length) place
  | .literal bytes :: later, rest => bytes ≠ [] ∧ ¬ opener <:+: bytes ∧
    (∀ next ∈ later.head?, next.isTag) ∧ Cut later rest
  | .tag body :: later, rest =>
    FirstCloser (body ++ closer ++ spelled later rest) body.length ∧ Cut later rest

/-- What starts with an opener does not start with a literal. -/
theorem scan_head_is_tag (opens : opener <+: document) :
    ∀ next ∈ (scan document).list.head?, next.isTag := by
  intro next member
  unfold scan at member
  split at member
  · cases member
  · split at member
    · split at member
      · cases member
      · cases member
        rfl
    · rename_i apart
      exact absurd (List.isPrefixOf_iff_prefix.2 opens) apart

theorem eq_opener_append {octet : UInt8} {rest : Bytes}
    (opens : opener.isPrefixOf (octet :: rest) = true) : octet :: rest = opener ++ rest.drop 4 :=
  (List.prefix_iff_eq_append.1 (List.isPrefixOf_iff_prefix.1 opens)).symm

/-- Scanning keeps every octet, and cuts where it has to. -/
theorem scan_cut (document : Bytes) :
    spelled (scan document).list (scan document).rest = document ∧
      Cut (scan document).list (scan document).rest := by
  fun_induction scan document with
  | case1 => exact ⟨rfl, .inl rfl⟩
  | case2 octet rest opens missing =>
    refine ⟨rfl, .inr ⟨List.isPrefixOf_iff_prefix.1 opens, fun place => ?_⟩⟩
    exact unclosed_of_split missing place
  | case3 octet rest opens body after found _ ih =>
    obtain ⟨same, first⟩ := first_closer_of_split found
    rw [same, ← ih.1] at first
    refine ⟨?_, first, ih.2⟩
    rw [eq_opener_append opens, same]
    have kept := congrArg ((opener ++ body ++ closer) ++ ·) ih.1
    simpa [Fragments.push, spelled, source] using kept
  | case4 octet rest apart _ ih =>
    obtain ⟨same, ends, free⟩ := split_at_opener_splits rest
    rw [List.isPrefixOf_iff_prefix] at apart
    refine ⟨?_, List.cons_ne_nil _ _, free octet apart, ?_, ih.2⟩
    · have kept := congrArg ((octet :: (splitAtOpener rest).1) ++ ·) ih.1
      simpa [Fragments.push, spelled, source, same] using kept
    · rcases ends with done | opens
      · simp [done, scan]
      · exact scan_head_is_tag opens

theorem split_of_first_closer (first : FirstCloser (before ++ closer ++ after) before.length) :
    splitAtCloser false (before ++ closer ++ after) = some (before, after) := by
  cases found : splitAtCloser false (before ++ closer ++ after) with
  | none => exact absurd first.1 (unclosed_of_split found _)
  | some parts =>
    obtain ⟨front, rest⟩ := parts
    obtain ⟨same, other⟩ := first_closer_of_split found
    have length : before.length = front.length := by
      rcases Nat.lt_trichotomy before.length front.length with shorter | equal | longer
      · exact absurd first.1 (other.2 _ shorter)
      · exact equal
      · exact absurd other.1 (first.2 _ longer)
    rw [List.append_assoc, List.append_assoc] at same
    obtain ⟨rfl, tail⟩ := List.append_inj same length
    rw [List.append_cancel_left tail]

/-- An opener that starts in a text without one would have to go on in the next opener, and no part
of an opener but its front starts as openers do. -/
theorem not_opener_of_free (nonempty : bytes ≠ []) (free : ¬ opener <:+: bytes)
    (ends : rest = [] ∨ opener <+: rest) : ¬ opener <+: bytes ++ rest := by
  rintro ⟨behind, same⟩
  rcases List.append_eq_append_iff.1 same with ⟨extra, longer, _⟩ | ⟨tail, split, shorter⟩
  · exact free (longer ▸ (List.prefix_append opener extra).isInfix)
  · obtain ⟨first, others, rfl⟩ := List.exists_cons_of_ne_nil nonempty
    cases tail with
    | nil =>
      rw [List.append_nil] at split
      exact free (split ▸ List.infix_rfl)
    | cons octet tail =>
      have later : octet ∈ opener.tail := by
        rw [split]
        simp
      have starts : octet = 0x3C := by
        subst shorter
        rcases ends with nothing | opens
        · cases nothing
        · exact (List.cons_prefix_cons.1 opens).1.symm
      rw [starts] at later
      exact absurd later (by decide)

theorem split_at_opener_free (free : ¬ opener <:+: bytes) (ends : rest = [] ∨ opener <+: rest) :
    splitAtOpener (bytes ++ rest) = (bytes, rest) := by
  induction bytes with
  | nil =>
    rcases ends with rfl | opens
    · rfl
    · cases rest with
      | nil => rfl
      | cons octet rest =>
        rw [List.nil_append, splitAtOpener, if_pos (List.isPrefixOf_iff_prefix.2 opens)]
  | cons octet bytes ih =>
    have apart := not_opener_of_free (List.cons_ne_nil octet bytes) free ends
    rw [List.cons_append] at apart ⊢
    rw [splitAtOpener, if_neg fun opens => apart (List.isPrefixOf_iff_prefix.1 opens)]
    rw [ih fun infixed => free (List.infix_cons infixed)]

/-- What is left where a literal ends is nothing or starts with an opener. -/
theorem opens_of_cut (cut : Cut list left) (next : ∀ fragment ∈ list.head?, fragment.isTag) :
    spelled list left = [] ∨ opener <+: spelled list left := by
  cases list with
  | nil =>
    rcases cut with rfl | ⟨opens, _⟩
    · exact .inl rfl
    · exact .inr opens
  | cons fragment later =>
    cases fragment with
    | literal bytes => exact absurd (next _ rfl) nofun
    | tag body => exact .inr (by simp [spelled, source])

theorem scan_opener (text : Bytes) :
    scan (opener ++ text) = match splitAtCloser false text with
      | none => ⟨[], opener ++ text⟩
      | some (body, after) => (scan after).push (.tag body) := by
  have opens : opener.isPrefixOf (opener ++ text) = true :=
    List.isPrefixOf_iff_prefix.2 (List.prefix_append opener text)
  have whole : opener ++ text = 0x3C :: ([0x21, 0x2D, 0x2D, 0x23] ++ text) := rfl
  rw [whole] at opens ⊢
  have inside : ([0x21, 0x2D, 0x2D, 0x23] ++ text).drop 4 = text := rfl
  rw [scan]
  simp only [opens, if_true]
  split
  · rename_i missing
    rw [inside] at missing
    rw [missing]
  · rename_i body after found
    rw [inside] at found
    rw [found]

theorem scan_literal (apart : ¬ opener <+: octet :: rest) :
    scan (octet :: rest) = (scan (splitAtOpener rest).2).push
      (.literal (octet :: (splitAtOpener rest).1)) := by
  rw [scan, if_neg fun opens => apart (List.isPrefixOf_iff_prefix.1 opens)]

/-- Fragments that a document has to be cut into are those that it is cut into. -/
theorem scan_of_cut (cut : Cut list left) : scan (spelled list left) = ⟨list, left⟩ := by
  induction list with
  | nil =>
    rw [spelled, List.flatMap_nil, List.nil_append]
    rcases cut with rfl | ⟨opens, unclosed⟩
    · rw [scan]
    · have whole : left = opener ++ left.drop opener.length :=
        (List.prefix_iff_eq_append.1 opens).symm
      rw [whole, scan_opener]
      cases found : splitAtCloser false (left.drop opener.length) with
      | none => rfl
      | some parts => exact absurd (first_closer_of_split found).2.1 (unclosed _)
  | cons fragment later ih =>
    cases fragment with
    | literal bytes =>
      obtain ⟨nonempty, free, next, cut⟩ := cut
      have ends := opens_of_cut cut next
      have whole : spelled (.literal bytes :: later) left = bytes ++ spelled later left := by
        simp [spelled, source]
      have apart := not_opener_of_free nonempty free ends
      obtain ⟨octet, bytes, rfl⟩ := List.exists_cons_of_ne_nil nonempty
      rw [List.cons_append] at whole apart
      have freeTail : ¬ opener <:+: bytes := fun infixed => free (List.infix_cons infixed)
      rw [whole, scan_literal apart, split_at_opener_free freeTail ends, ih cut]
      rfl
    | tag body =>
      obtain ⟨first, cut⟩ := cut
      have whole : spelled (.tag body :: later) left =
          opener ++ (body ++ closer ++ spelled later left) := by
        simp [spelled, source]
      rw [whole, scan_opener, split_of_first_closer first]
      exact congrArg (Fragments.push (.tag body)) (ih cut)

theorem cut_later {earlier later : List Fragment} (cut : Cut (earlier ++ later) left) :
    Cut later left := by
  induction earlier with
  | nil => exact cut
  | cons fragment earlier ih =>
    cases fragment with
    | literal bytes => exact ih cut.2.2.2
    | tag body => exact ih cut.2

theorem cut_apart (cut : Cut list left) :
    list.IsChain fun first second => first.isTag ∨ second.isTag := by
  induction list with
  | nil => exact .nil
  | cons fragment later ih =>
    cases fragment with
    | literal bytes =>
      exact List.isChain_cons.2 ⟨fun next member => .inr (cut.2.2.1 next member), ih cut.2.2.2⟩
    | tag body => exact List.isChain_cons.2 ⟨fun next _ => .inl rfl, ih cut.2⟩

/-- Spans that follow one another without a gap, from one place to another. -/
def Tiles : Nat → List Span → Nat → Prop
  | start, [], stop => start = stop
  | start, span :: later, stop => span.start = start ∧ Tiles span.stop later stop

theorem place_tiles (list : List Fragment) (start : Nat) :
    Tiles start ((place start list).map (·.1)) (start + Fragments.size list) := by
  induction list generalizing start with
  | nil => rfl
  | cons fragment later ih =>
    refine ⟨rfl, ?_⟩
    simpa [Fragments.size, Nat.add_assoc] using ih (start + fragment.size)

/-- A placed fragment starts where all fragments before it end. -/
theorem mem_place (member : (span, fragment) ∈ place start list) :
    ∃ earlier later, list = earlier ++ fragment :: later ∧
      span = ⟨start + Fragments.size earlier, start + Fragments.size earlier + fragment.size⟩ := by
  induction list generalizing start with
  | nil => cases member
  | cons first rest ih =>
    rcases List.mem_cons.1 member with here | there
    · cases here
      exact ⟨[], rest, rfl, rfl⟩
    · obtain ⟨earlier, later, split, stands⟩ := ih there
      refine ⟨first :: earlier, later, congrArg (first :: ·) split, ?_⟩
      rw [stands]
      simp [Fragments.size, Nat.add_assoc]

theorem place_fragments (list : List Fragment) (start : Nat) :
    (place start list).map (·.2) = list := by
  induction list generalizing start with
  | nil => rfl
  | cons fragment later ih => exact congrArg (fragment :: ·) (ih _)

theorem length_sources (list : List Fragment) : (list.flatMap source).length = Fragments.size list := by
  induction list with
  | nil => rfl
  | cons fragment later ih => simp [Fragments.size, Fragment.size, ih]

/-- The octets of a document from one place up to another. -/
def slice (document : Bytes) (start stop : Nat) : Bytes := (document.take stop).drop start

theorem slice_middle {before middle after : Bytes} {start stop : Nat}
    (starts : start = before.length) (stops : stop = before.length + middle.length) :
    slice (before ++ middle ++ after) start stop = middle := by
  subst starts stops
  rw [slice, ← List.length_append, List.take_left, List.drop_left]

/-- A placed fragment stands in the document between the octets of the fragments before it and those
of all that comes after it. -/
theorem placed_stands (member : (span, fragment) ∈ (scan document).placed) :
    ∃ before later left, document = before ++ fragment.source ++ spelled later left ∧
      span = ⟨before.length, before.length + fragment.size⟩ ∧ Cut (fragment :: later) left := by
  obtain ⟨same, cut⟩ := scan_cut document
  obtain ⟨earlier, later, split, stands⟩ := mem_place member
  rw [split] at same cut
  refine ⟨earlier.flatMap source, later, (scan document).rest, ?_, ?_, cut_later cut⟩
  · simpa [spelled] using same.symm
  · rwa [Nat.zero_add, ← length_sources] at stands

/-- Spans with what stands in them, as they partition a document up to a place. -/
structure Partition (document : Bytes) (placed : List (Span × Fragment)) (reached : Nat) : Prop where
  tiles : Tiles 0 (placed.map (·.1)) reached
  reached_le : reached ≤ document.length
  nonempty : ∀ span fragment, (span, fragment) ∈ placed →
    span.start < span.stop ∧ span.stop ≤ document.length
  /-- Of two spans that follow one another, one is that of a tag. -/
  apart : placed.IsChain fun first second => first.2.isTag ∨ second.2.isTag
  literal : ∀ span bytes, (span, .literal bytes) ∈ placed →
    slice document span.start span.stop = bytes ∧ ¬ opener <:+: bytes
  tag : ∀ span body, (span, .tag body) ∈ placed →
    8 ≤ span.length ∧ opener <+: slice document span.start span.stop ∧
      closer <:+ slice document span.start span.stop ∧
      slice document (span.start + opener.length) (span.stop - closer.length) = body
  /-- A tag ends just past the first closer after its opener that lies outside quotes. -/
  tag_ends : ∀ span body, (span, .tag body) ∈ placed →
    ∃ place, FirstCloser (document.drop (span.start + opener.length)) place ∧
      span.stop = span.start + opener.length + place + closer.length

/-- What a reader of a document is given, one result after another: spans, and at last the start of a
tag that never ends. -/
def results (document : Bytes) : List (Except ParseError Span) :=
  (scan document).placed.map (fun placed => .ok placed.1) ++
    ((scan document).unterminated?.map fun offset => .error ⟨offset, .unterminated⟩).toList

theorem placed_partition (document : Bytes) :
    Partition document (scan document).placed (Fragments.size (scan document).list) := by
  obtain ⟨same, cut⟩ := scan_cut document
  refine ⟨?_, ?_, ?_, ?_, ?_, ?_, ?_⟩
  · have tiles := place_tiles (scan document).list 0
    rwa [Nat.zero_add] at tiles
  · rw [← length_sources, ← congrArg List.length same, spelled, List.length_append]
    exact Nat.le_add_right _ _
  · intro span fragment member
    obtain ⟨before, later, left, split, rfl, cut⟩ := placed_stands member
    have positive : 0 < fragment.size := by
      cases fragment with
      | literal bytes => exact List.length_pos_of_ne_nil cut.1
      | tag body => simp [Fragment.size, source, opener]
    have length := congrArg List.length split
    simp only [List.length_append] at length
    simp only [Fragment.size] at positive ⊢
    omega
  · have apart := cut_apart cut
    rw [← place_fragments (scan document).list 0] at apart
    exact (List.isChain_map Prod.snd).1 apart
  · intro span bytes member
    obtain ⟨before, later, left, split, rfl, cut⟩ := placed_stands member
    refine ⟨?_, cut.2.1⟩
    rw [split]
    exact slice_middle rfl rfl
  · intro span body member
    obtain ⟨before, later, left, split, rfl, cut⟩ := placed_stands member
    have whole : slice document before.length (before.length + (Fragment.tag body).size) =
        opener ++ body ++ closer := by
      rw [split]
      exact slice_middle rfl rfl
    refine ⟨?_, ?_, ?_, ?_⟩
    · simp [Span.length, Fragment.size, source, opener, closer]
    · rw [whole]
      exact ⟨body ++ closer, by simp⟩
    · rw [whole]
      exact ⟨opener ++ body, rfl⟩
    · have inner : document = (before ++ opener) ++ body ++ (closer ++ spelled later left) := by
        simpa [source] using split
      rw [inner]
      refine slice_middle (by simp) ?_
      simp [Fragment.size, source]
      omega
  · intro span body member
    obtain ⟨before, later, left, split, rfl, cut⟩ := placed_stands member
    have inside : document.drop (before.length + opener.length) =
        body ++ closer ++ spelled later left := by
      have inner : document = (before ++ opener) ++ (body ++ closer ++ spelled later left) := by
        simpa [source] using split
      rw [inner, ← List.length_append, List.drop_left]
    refine ⟨body.length, inside ▸ cut.1, ?_⟩
    simp [Fragment.size, source, Nat.add_assoc]

/-- Scanning partitions every document: the spans follow one another from its start without a gap,
and either they reach its end, or what they leave starts with an opener that has no closer outside
quotes after it. That is reported last, and nothing comes after it. -/
theorem scan_partition (document : Bytes) :
    ∃ reached, Partition document (scan document).placed reached ∧
      (results document = (scan document).placed.map (fun placed => .ok placed.1) ∧
          reached = document.length ∨
        results document = (scan document).placed.map (fun placed => .ok placed.1) ++
            [.error ⟨reached, .unterminated⟩] ∧
          opener <+: document.drop reached ∧
          ∀ place, ¬ ClosesFrom .outside (document.drop (reached + opener.length)) place) := by
  obtain ⟨same, cut⟩ := scan_cut document
  refine ⟨_, placed_partition document, ?_⟩
  have left : document.drop (Fragments.size (scan document).list) = (scan document).rest := by
    have dropped := congrArg (List.drop (Fragments.size (scan document).list)) same
    rwa [spelled, ← length_sources, List.drop_left, length_sources, eq_comm] at dropped
  rw [← List.append_nil (scan document).list] at cut
  have ending : Cut [] (scan document).rest := cut_later cut
  rcases ending with done | ⟨opens, unclosed⟩
  · refine .inl ⟨?_, ?_⟩
    · simp [results, Fragments.unterminated?, done]
    · rw [← congrArg List.length same, spelled, done, List.append_nil, length_sources]
  · refine .inr ⟨?_, left ▸ opens, fun place => ?_⟩
    · have unfinished : (scan document).rest ≠ [] := by
        rintro nothing
        rw [nothing] at opens
        simp [opener] at opens
      simp [results, Fragments.unterminated?, unfinished]
    · rw [← List.drop_drop, left]
      exact unclosed place

end ServerIncludes.Scanning
