import ServerIncludes.Proofs.Evaluation.Effects
import ServerIncludes.Proofs.Evaluation.ReportedTags

/-! Documents that only write their own text. Where all tags outside blocks are of directives that
write nothing, an evaluation has no faults and needs no resolver, and what it writes is the document
without its tags and blocks. Which tags stand outside blocks can be told by counting the names of
tags, and nothing that a block holds matters, however it is nested. One thing can get in the way: a
date in a value or a message, where the format in force is one that times cannot be written in. It can
be told beforehand too, from the names that are bound and the formats that are set. -/
namespace ServerIncludes.QuietDirectives

open DirectiveAttributes (describes_of_tag known)
open Effects (dateNames)
open Failures (evaluate_eq outcomeOf)
open Likenesses (leafReads)
open Fragment (opener source)
open Fragments (scan)
open Nesting (Derives DerivesBranches Reads Stand Symbol assemble_ok_iff directiveOf
  parse_eq_assemble reads_of_parse spelling)
open Parts (ok_of_bind ok_of_to_option)
open Plans (bind_of_ok run_of_tree)
open ReportedTags (name_of_read tagName?)
open Scanning (Cut place_fragments scan_of_cut spelled)

/-! ## Text outside blocks -/

/-- The items of a list that come when no bracket is open; `count` goes past an item with a number
of brackets open and tells how many there are behind it. -/
def atTop (count : Nat → α → Nat) : Nat → List α → List α
  | _, [] => []
  | 0, item :: later => item :: atTop count (count 0 item) later
  | depth + 1, item :: later => atTop count (count (depth + 1) item) later

/-- The number of blocks that are open behind a fragment, by the name in its tag. -/
def countBlocks (depth : Nat) (fragment : Fragment) : Nat :=
  if tagName? fragment = some "block" then depth + 1
  else if tagName? fragment = some "endblock" then depth - 1
  else depth

/-- The fragments of a document that no block holds. -/
def outsideBlocks (document : Bytes) : List Fragment := atTop countBlocks 0 (scan document).list

def text : Fragment → Bytes
  | .literal bytes => bytes
  | .tag _ => []

/-- A document without its tags and without all that blocks hold. -/
def textOutsideBlocks (document : Bytes) : Bytes := (outsideBlocks document).flatMap text

/-- Names of directives that write nothing by themselves. -/
def QuietName (name : String) : Prop :=
  name ∈ ["comment", "set", "config", "block", "endblock"] ∨ name ∉ known

instance (name : String) : Decidable (QuietName name) := inferInstanceAs (Decidable (_ ∨ _))

/-- The tags outside blocks have only names of directives that write nothing. -/
def QuietOutsideBlocks (document : Bytes) : Prop :=
  ∀ fragment ∈ outsideBlocks document, ∀ name ∈ tagName? fragment, QuietName name

instance (document : Bytes) : Decidable (QuietOutsideBlocks document) :=
  List.decidableBAll _ _

/-- The directives of a document that no block holds. -/
def directivesOutsideBlocks (policy : AttributePolicy) (document : Bytes) : List Directive :=
  (outsideBlocks document).filterMap fun fragment => (directiveOf policy fragment).toOption

/-! ## Dates that cannot be written -/

/-- What it depends on whether a date can be had: the names that are bound, behind which dates are
hidden, and the format in force. -/
structure Standing where
  bound : List String
  timeFormat : String

/-- The names that a directive reads. -/
def readBy : Directive → List String
  | .leaf content => leafReads content
  | _ => []

namespace Standing

def ofContext (context : Context) : Standing :=
  ⟨context.bindings.entries.map (·.1), context.settings.timeFormat⟩

/-- The format in force, if a name stands for a date and times cannot be written in it. -/
def unwritable? (standing : Standing) (name : String) : Option String :=
  if name ∈ dateNames ∧ name ∉ standing.bound ∧
      (TimeFormat.ofText standing.timeFormat).isWritable = false then
    some standing.timeFormat
  else none

/-- What a directive that writes nothing makes of a standing. -/
def pass (standing : Standing) : Directive → Standing
  | .leaf (.assign name _) => { standing with bound := name :: standing.bound }
  | .leaf (.configure _ _ _ timeFormat) =>
    { standing with timeFormat := timeFormat.getD standing.timeFormat }
  | _ => standing

/-- The format of the first date that directives read and that cannot be written. -/
def breaks? : Standing → List Directive → Option String
  | _, [] => none
  | standing, directive :: later =>
    ((readBy directive).findSome? standing.unwritable?).or ((standing.pass directive).breaks? later)

end Standing

/-- The format of the first date that tags outside blocks ask for in vain, in an evaluation that starts
from a context. -/
def unwritableDate? (policy : AttributePolicy) (document : Bytes) (context : Context) :
    Option String :=
  (Standing.ofContext context.resetSettings).breaks? (directivesOutsideBlocks policy document)

/-- A format that a tag outside blocks sets. -/
def SetsFormat (policy : AttributePolicy) (document : Bytes) (format : String) : Prop :=
  ∃ errorMessage missingMessage sizeFormat,
    .leaf (.configure errorMessage missingMessage sizeFormat (some format)) ∈
      directivesOutsideBlocks policy document

/-- An evaluation comes to its end with some octets as its output, and without faults. -/
def FinishesWith (resolver : Resolver) (context : Context) (nodes : List Node) (output : Bytes) :
    Prop :=
  ∃ after, conclusion resolver context nodes = .finished ⟨output, [], after⟩

/-! ## What fragments stand for -/

/-- Text, or a directive that writes nothing. -/
inductive Quiet : Directive → Prop where
  | literal : Quiet (.leaf (.literal bytes))
  | assign : Quiet (.leaf (.assign name value))
  | configure : Quiet (.leaf (.configure errorMessage missingMessage sizeFormat timeFormat))
  | comment : Quiet (.leaf .comment)
  | unknown : Quiet (.leaf (.unknown name))
  | startBlock : Quiet (.startBlock name)
  | endBlock : Quiet .endBlock

def directiveText : Directive → Bytes
  | .leaf (.literal bytes) => bytes
  | _ => []

/-- The number of blocks that are open behind a symbol. -/
def countOpen (depth : Nat) (symbol : Symbol) : Nat :=
  match symbol.2 with
  | .startBlock _ => depth + 1
  | .endBlock => depth - 1
  | _ => depth

/-- A directive that holds no others is not spelled as a block. -/
theorem not_block_of_leaf (read : directiveOf policy (.tag body) = .ok (.leaf content)) :
    content.directive ≠ "block" ∧ content.directive ≠ "endblock" := by
  obtain ⟨tag, spelled, stands⟩ := ok_of_bind read
  obtain ⟨attributes, named, -, describes⟩ := describes_of_tag stands
  cases describes with
  | unknown other =>
    simp only [known, List.mem_cons, not_or] at other
    simp [Leaf.directive, other]
  | _ => simp [Leaf.directive]

theorem count_of_read (read : directiveOf policy fragment = .ok directive) (span : Span)
    (depth : Nat) : countBlocks depth fragment = countOpen depth (span, directive) := by
  cases fragment with
  | literal bytes =>
    cases read
    rfl
  | tag body =>
    have named := name_of_read read
    cases directive with
    | leaf content =>
      obtain ⟨notBlock, notEnd⟩ := not_block_of_leaf read
      simp [countBlocks, countOpen, named, spelling, notBlock, notEnd]
    | _ => simp [countBlocks, countOpen, named, spelling]

theorem quiet_of_name (read : directiveOf policy fragment = .ok directive)
    (quiet : ∀ name ∈ tagName? fragment, QuietName name) : Quiet directive := by
  cases fragment with
  | literal bytes =>
    cases read
    exact .literal
  | tag body =>
    have named : QuietName (spelling directive) := quiet _ (name_of_read read)
    obtain ⟨tag, spelled, stands⟩ := ok_of_bind read
    obtain ⟨attributes, -, -, describes⟩ := describes_of_tag stands
    cases describes with
    | startBlock => exact .startBlock
    | endBlock => exact .endBlock
    | assign => exact .assign
    | configure => exact .configure
    | comment => exact .comment
    | unknown => exact .unknown
    | _ => simp [QuietName, known, spelling, Leaf.directive] at named

theorem text_of_read (read : directiveOf policy fragment = .ok directive) :
    text fragment = directiveText directive := by
  cases fragment with
  | literal bytes =>
    cases read
    rfl
  | tag body =>
    have notText := Accounting.not_literal_of_tag read
    unfold directiveText
    split
    · exact absurd rfl (notText _)
    · rfl

/-- Counting names tells the same fragments apart as counting what they stand for. -/
theorem stand_at_top {placed : List (Span × Fragment)} (stand : Stand policy placed symbols)
    (depth : Nat) : List.Forall₂ (fun fragment symbol => directiveOf policy fragment = .ok symbol.2)
      (atTop countBlocks depth (placed.map (·.2))) (atTop countOpen depth symbols) := by
  induction stand generalizing depth with
  | nil =>
    cases depth with
    | zero => exact .nil
    | succ depth => exact .nil
  | @cons placed symbol later symbols first rest ih =>
    have counted := count_of_read first.2 symbol.1 depth
    cases depth with
    | zero =>
      refine .cons first.2 ?_
      rw [counted]
      exact ih _
    | succ depth =>
      show List.Forall₂ _ (atTop _ (countBlocks (depth + 1) placed.2) _) _
      rw [counted]
      exact ih _

/-- What stands for quiet directives is quiet, and has the same text. -/
theorem quiet_of_stand {fragments : List Fragment} {symbols : List Symbol}
    (stand : List.Forall₂ (fun fragment symbol => directiveOf policy fragment = .ok symbol.2)
      fragments symbols)
    (quiet : ∀ fragment ∈ fragments, ∀ name ∈ tagName? fragment, QuietName name) :
    (∀ symbol ∈ symbols, Quiet symbol.2) ∧
      fragments.flatMap text = symbols.flatMap fun symbol => directiveText symbol.2 := by
  induction stand with
  | nil => exact ⟨nofun, rfl⟩
  | cons read later ih =>
    obtain ⟨first, others⟩ := List.forall_mem_cons.1 quiet
    obtain ⟨behind, same⟩ := ih others
    refine ⟨List.forall_mem_cons.2 ⟨quiet_of_name read first, behind⟩, ?_⟩
    rw [List.flatMap_cons, List.flatMap_cons, text_of_read read, same]

theorem directives_of_stand {fragments : List Fragment} {symbols : List Symbol}
    (stand : List.Forall₂ (fun fragment symbol => directiveOf policy fragment = .ok symbol.2)
      fragments symbols) :
    fragments.filterMap (fun fragment => (directiveOf policy fragment).toOption) =
      symbols.map (·.2) := by
  induction stand with
  | nil => rfl
  | cons read later ih => rw [List.filterMap_cons, read, List.map_cons, ← ih]; rfl

mutual

/-- What complete nodes are made of is passed over inside a block. -/
theorem at_top_within : Derives symbols nodes → ∀ depth later,
    atTop countOpen (depth + 1) (symbols ++ later) = atTop countOpen (depth + 1) later
  | .nil, _, _ => rfl
  | .leaf others, depth, later => at_top_within others depth later
  | .conditional body branches others, depth, later => by
    simp only [List.cons_append, List.append_assoc, atTop, countOpen]
    rw [at_top_within body, at_top_branches branches]
    exact at_top_within others depth later
  | .block body others, depth, later => by
    simp only [List.cons_append, List.append_assoc, atTop, countOpen]
    rw [at_top_within body]
    exact at_top_within others depth later

theorem at_top_branches : DerivesBranches symbols rest → ∀ depth later,
    atTop countOpen (depth + 1) (symbols ++ later) = atTop countOpen (depth + 1) later
  | .done, _, _ => rfl
  | .otherwise body, depth, later => at_top_within body depth later
  | .elif body others, depth, later => by
    simp only [List.cons_append, List.append_assoc, atTop, countOpen]
    rw [at_top_within body]
    exact at_top_branches others depth later

end

/-! ## Rendering -/

namespace Standing

/-- A context in which the names are bound and the format is in force. -/
structure Holds (standing : Standing) (context : Context) : Prop where
  bound : ∀ name, (context.bindings.get? name).isSome ↔ name ∈ standing.bound
  timeFormat : context.settings.timeFormat = standing.timeFormat

theorem holds_of_context (context : Context) : (ofContext context).Holds context where
  bound := by
    intro name
    simp only [Variables.get?, Option.isSome_map, List.find?_isSome, beq_iff_eq, ofContext,
      List.mem_map]
  timeFormat := rfl

theorem timed_of_holds {standing : Standing} (holds : standing.Holds context) (zone : Zone)
    (instant : Instant) : (context.timed zone instant).2.findSome? Lookup.unwritable? =
      if (TimeFormat.ofText standing.timeFormat).isWritable = false then some standing.timeFormat
      else none := by
  rw [← holds.timeFormat, ← TimeFormat.isSome_write _ zone instant, Context.timed,
    Settings.writeTime]
  cases (TimeFormat.ofText context.settings.timeFormat).write zone instant with
  | none => rfl
  | some text => rfl

/-- Looking up a name breaks off where the standing tells. -/
theorem asked_of_holds {standing : Standing} (holds : standing.Holds context) (name : String) :
    (context.asked name).findSome? Lookup.unwritable? = standing.unwritable? name := by
  unfold Context.asked
  split
  · next bound =>
    have hidden : ¬(name ∈ dateNames ∧ name ∉ standing.bound ∧
        (TimeFormat.ofText standing.timeFormat).isWritable = false) :=
      fun date => date.2.1 ((holds.bound name).1 bound)
    rw [unwritable?, if_neg hidden]
    rfl
  · next unbound =>
    have free : name ∉ standing.bound := fun bound => unbound ((holds.bound name).2 bound)
    rw [unwritable?]
    cases shown : context.zone? name with
    | some zone =>
      have date : name ∈ dateNames :=
        (Effects.mem_date_names context).2 (Option.isSome_of_eq_some shown)
      simp only [timed_of_holds holds, date, free, not_false_eq_true, true_and]
    | none =>
      have notDate : name ∉ dateNames := fun date => by
        simpa [shown] using (Effects.mem_date_names context).1 date
      cases context.fallback <;> simp [notDate, Lookup.unwritable?]

/-- Filling in a template looks up its markers one after another. -/
theorem asked_all_of_holds {standing : Standing} (holds : standing.Holds context)
    (names : List String) : (names.flatMap context.asked).findSome? Lookup.unwritable? =
      names.findSome? standing.unwritable? := by
  induction names with
  | nil => rfl
  | cons name rest ih =>
    rw [List.flatMap_cons, List.findSome?_append, asked_of_holds holds, ih, List.findSome?_cons]
    cases standing.unwritable? name <;> rfl

theorem holds_assign {standing : Standing} (holds : standing.Holds context) (name value : String) :
    Holds { standing with bound := name :: standing.bound } (context.set name value) where
  bound := by
    intro other
    by_cases same : other = name
    · simp [same, Context.set, Variables.get?_set_self]
    · simp [same, Context.set, Variables.get?_set_of_ne same, holds.bound other]
  timeFormat := holds.timeFormat

theorem time_format_of_pass (standing : Standing) (directive : Directive) :
    (standing.pass directive).timeFormat = standing.timeFormat ∨
      ∃ errorMessage missingMessage sizeFormat, directive =
        .leaf (.configure errorMessage missingMessage sizeFormat
          (some (standing.pass directive).timeFormat)) := by
  unfold pass
  split
  · exact .inl rfl
  · next errors missing size timeFormat =>
    cases timeFormat with
    | none => exact .inl rfl
    | some format => exact .inr ⟨errors, missing, size, rfl⟩
  · exact .inl rfl

/-- A format that breaks off cannot be written in, and was in force at the start or is set. -/
theorem origin_of_breaks {standing : Standing} {directives : List Directive}
    (breaks : standing.breaks? directives = some format) :
    (TimeFormat.ofText format).isWritable = false ∧
      (format = standing.timeFormat ∨ ∃ errorMessage missingMessage sizeFormat,
        .leaf (.configure errorMessage missingMessage sizeFormat (some format)) ∈ directives) := by
  induction directives generalizing standing with
  | nil => cases breaks
  | cons directive later ih =>
    rw [breaks?] at breaks
    rcases Option.or_eq_some_iff.1 breaks with here | ⟨-, there⟩
    · obtain ⟨name, -, unwritable⟩ := List.exists_of_findSome?_eq_some here
      obtain ⟨⟨-, -, fails⟩, same⟩ := Option.ite_none_right_eq_some.1 unwritable
      cases same
      exact ⟨fails, .inl rfl⟩
    · obtain ⟨fails, rfl | ⟨errors, missing, size, given⟩⟩ := ih there
      · refine ⟨fails, (time_format_of_pass standing directive).imp id ?_⟩
        rintro ⟨errors, missing, size, same⟩
        exact ⟨errors, missing, size, List.mem_cons.2 (.inl same.symm)⟩
      · exact ⟨fails, .inr ⟨errors, missing, size, List.mem_cons_of_mem _ given⟩⟩

end Standing

section

variable {names : List String} {resolver : Resolver} {expand : Run.Expansion names}

/-- A step that always goes on, having written some octets, and leaves neither faults nor questions
to the resolver. If it starts from a standing, it breaks off as told and ends in another one. -/
def Passes (standing : Standing) (bytes : Bytes) (broken : Option String) (next : Standing)
    (step : Run names α) : Prop :=
  ∀ state, standing.Holds state.context → ∃ value after lookups,
    step state = ⟨.ok value, after, ⟨bytes, [], [], lookups⟩⟩ ∧
      lookups.findSome? Lookup.unwritable? = broken ∧ next.Holds after.context

theorem passes_bind {step : Run names α} {next : α → Run names β}
    (first : Passes standing before broken middle step)
    (later : ∀ value, Passes middle behind broken' final (next value)) :
    Passes standing (before ++ behind) (broken.or broken') final (step >>= next) := by
  intro state holds
  obtain ⟨value, between, lookups, ran, breaks, still⟩ := first state holds
  obtain ⟨result, after, others, went, breaks', ends⟩ := later value between still
  refine ⟨result, after, lookups ++ others, ?_, ?_, ends⟩
  · rw [bind_of_ok (congrArg Outcome.result ran), ran]
    simp only [went]
    rfl
  · rw [List.findSome?_append, breaks, breaks']

/-- A step that writes nothing, and behind it one that cannot break off. -/
theorem passes_then {step : Run names α} {next : α → Run names β}
    (first : Passes standing [] broken middle step)
    (later : ∀ value, Passes middle bytes none final (next value)) :
    Passes standing bytes broken final (step >>= next) := by
  simpa using passes_bind first later

theorem passes_pure (standing : Standing) (value : α) :
    Passes standing [] none standing (pure value : Run names α) :=
  fun _ holds => ⟨_, _, _, rfl, rfl, holds⟩

theorem passes_emit (standing : Standing) (bytes : Bytes) :
    Passes standing bytes none standing (Run.emit bytes : Run names Unit) :=
  fun _ holds => ⟨_, _, _, rfl, rfl, holds⟩

theorem passes_change {standing : Standing} {update : Context → Context}
    (changes : ∀ context, standing.Holds context → next.Holds (update context)) :
    Passes standing [] none next (Run.change update : Run names Unit) :=
  fun state holds => ⟨_, _, _, rfl, rfl, changes state.context holds⟩

theorem passes_substitute (standing : Standing) (template : Template) :
    Passes standing [] (template.markers.findSome? standing.unwritable?) standing
      (Run.substitute template : Run names String) :=
  fun _ holds => ⟨_, _, _, rfl, Standing.asked_all_of_holds holds template.markers, holds⟩

theorem passes_substitute? (standing : Standing) (template : Option Template) :
    Passes standing [] ((template.toList.flatMap Template.markers).findSome? standing.unwritable?)
      standing (Run.substitute? template : Run names (Option String)) := by
  cases template with
  | none => exact passes_pure standing none
  | some template =>
    rw [Option.toList_some, List.flatMap_singleton]
    exact passes_then (passes_substitute standing template) fun _ => passes_pure standing _

theorem passes_leaf (quiet : Quiet (.leaf content)) (standing : Standing) (site : Site) :
    Passes standing (directiveText (.leaf content))
      ((leafReads content).findSome? standing.unwritable?) (standing.pass (.leaf content))
      (Run.renderLeaf resolver expand site content) := by
  cases quiet with
  | literal => exact passes_emit standing _
  | @assign name value =>
    refine passes_then (passes_substitute standing value) fun text => passes_change ?_
    exact fun context holds => Standing.holds_assign holds name text
  | @configure errorMessage missingMessage sizeFormat timeFormat =>
    rw [leafReads, List.flatMap_append, List.findSome?_append]
    refine passes_bind (passes_substitute? standing errorMessage) fun errors => ?_
    refine passes_then (passes_substitute? standing missingMessage) fun missing => passes_change ?_
    exact fun context holds => ⟨holds.bound, congrArg timeFormat.getD holds.timeFormat⟩
  | comment => exact passes_pure standing ()
  | unknown => exact passes_pure standing ()

/-- Nodes write the text outside blocks that they are made of, and break off where the directives
outside blocks do. -/
theorem passes_nodes (derives : Derives symbols nodes)
    (quiet : ∀ symbol ∈ atTop countOpen 0 symbols, Quiet symbol.2)
    (within : Node.listBlockNames nodes ⊆ names) (standing : Standing) :
    ∃ final, Passes standing ((atTop countOpen 0 symbols).flatMap fun symbol => directiveText symbol.2)
      (standing.breaks? ((atTop countOpen 0 symbols).map (·.2))) final
      (Run.renderAll resolver expand nodes within) := by
  induction nodes generalizing symbols standing with
  | nil =>
    cases derives
    exact ⟨standing, passes_pure standing ()⟩
  | cons node nodes ih =>
    rw [Run.renderAll]
    cases derives with
    | @leaf symbols _ span content later =>
      obtain ⟨first, quiet⟩ := List.forall_mem_cons.1 quiet
      obtain ⟨final, rest⟩ := ih later quiet (List.append_subset.1 within).2
        (standing.pass (.leaf content))
      exact ⟨final, passes_bind (passes_leaf first standing _) fun _ => rest⟩
    | conditional body branches later =>
      obtain ⟨first, -⟩ := List.forall_mem_cons.1 quiet
      cases first
    | @block inside held symbols _ opener closer name body later =>
      have passed : atTop countOpen 0
          ((opener, .startBlock name) :: inside ++ (closer, .endBlock) :: symbols) =
          (opener, .startBlock name) :: atTop countOpen 0 symbols :=
        congrArg _ (at_top_within body 0 ((closer, .endBlock) :: symbols))
      rw [passed] at quiet ⊢
      obtain ⟨final, rest⟩ := ih later (List.forall_mem_cons.1 quiet).2
        (List.append_subset.1 within).2 standing
      have defined : Passes standing [] none standing (Run.renderNode resolver expand
          (.block ⟨opener.start, closer.stop⟩ name held) (List.append_subset.1 within).1) :=
        fun _ holds => ⟨_, _, _, rfl, rfl, holds⟩
      exact ⟨final, passes_bind defined fun _ => rest⟩

end

/-! ## Documents -/

/-- What an evaluation does whose tags outside blocks write nothing: it goes on to the end of the tree
and leaves the text outside blocks, and it breaks off where the directives outside blocks do. -/
theorem evaluate_quiet (parsed : Document.parse policy document = .ok nodes)
    (quiet : QuietOutsideBlocks document) (resolver : Resolver) (context : Context) :
    ∃ after lookups, evaluate resolver context nodes =
        (.ok ⟨textOutsideBlocks document, [], after⟩,
          ⟨textOutsideBlocks document, [], [], lookups⟩) ∧
      lookups.findSome? Lookup.unwritable? = unwritableDate? policy document context := by
  obtain ⟨symbols, reads, derives⟩ := reads_of_parse parsed
  have stand := stand_at_top reads.valid 0
  rw [Fragments.placed, place_fragments] at stand
  obtain ⟨silent, same⟩ := quiet_of_stand stand quiet
  have outside : directivesOutsideBlocks policy document = (atTop countOpen 0 symbols).map (·.2) :=
    directives_of_stand stand
  obtain ⟨final, passes⟩ : ∃ final, Passes (.ofContext context.resetSettings) _ _ final
      (Run.renderAll resolver (Run.expand resolver []) nodes (List.Subset.refl _)) :=
    passes_nodes derives silent _ _
  obtain ⟨value, after, lookups, ran, breaks, -⟩ :=
    passes ⟨context.resetSettings, [], []⟩ (Standing.holds_of_context context.resetSettings)
  refine ⟨after.context, lookups, ?_, by rw [unwritableDate?, outside, breaks]⟩
  have outcome : outcomeOf resolver context nodes =
      ⟨.ok value, after, ⟨textOutsideBlocks document, [], [], lookups⟩⟩ := by
    rw [outcomeOf, run_of_tree, ran, textOutsideBlocks, outsideBlocks, same]
  rw [evaluate_eq, outcome]
  rfl

/-- Where the directives outside blocks do not break off, an evaluation finishes, and else it breaks
off where they do. -/
theorem conclusion_quiet (parsed : Document.parse policy document = .ok nodes)
    (quiet : QuietOutsideBlocks document) (resolver : Resolver) (context : Context) :
    (evaluate resolver context nodes).2.calls = [] ∧
    match unwritableDate? policy document context with
    | none => FinishesWith resolver context nodes (textOutsideBlocks document)
    | some format => conclusion resolver context nodes = .brokenOff format := by
  obtain ⟨after, lookups, evaluated, breaks⟩ := evaluate_quiet parsed quiet resolver context
  have broken : (evaluate resolver context nodes).2.brokenOff? =
      unwritableDate? policy document context := by
    rw [evaluated]
    exact breaks
  refine ⟨by rw [evaluated], ?_⟩
  cases told : unwritableDate? policy document context with
  | some format => exact conclusion_broken_off.2 (broken.trans told)
  | none =>
    have ends := conclusion_of_unbroken (broken.trans told)
    rw [evaluated] at ends
    exact ⟨after, ends⟩

/-- A document without an opener is a single piece of text, or empty. -/
theorem scan_of_free (free : ¬ opener <:+: document) :
    (scan document).rest = [] ∧
      ((scan document).list = [.literal document] ∨ document = [] ∧ (scan document).list = []) := by
  by_cases empty : document = []
  · subst empty
    rw [scan]
    exact ⟨rfl, .inr ⟨rfl, rfl⟩⟩
  · have last : ∀ next ∈ ([] : List Fragment).head?, next.isTag := by
      intro next member
      cases member
    have cut : Cut [.literal document] [] := ⟨empty, free, last, .inl rfl⟩
    have scanned := scan_of_cut cut
    rw [spelled, List.append_nil, List.flatMap_singleton, source] at scanned
    rw [scanned]
    exact ⟨rfl, .inl rfl⟩

theorem parse_of_free (policy : AttributePolicy) (free : ¬ opener <:+: document) :
    ∃ nodes, Document.parse policy document = .ok nodes := by
  obtain ⟨ended, fragments⟩ := scan_of_free free
  have terminated : (scan document).unterminated? = none := by
    simp [Fragments.unterminated?, ended]
  rcases fragments with single | ⟨-, none⟩
  · have placed : (scan document).placed = [(⟨0, 0 + document.length⟩, .literal document)] := by
      rw [Fragments.placed, single]
      rfl
    have reads : Reads policy document
        [(⟨0, 0 + document.length⟩, .leaf (.literal document))] :=
      ⟨terminated, placed ▸ .cons ⟨rfl, rfl⟩ .nil⟩
    exact ⟨_, parse_eq_assemble reads ▸ assemble_ok_iff.2 (.leaf .nil)⟩
  · have placed : (scan document).placed = [] := by
      rw [Fragments.placed, none]
      rfl
    have reads : Reads policy document [] := ⟨terminated, placed ▸ .nil⟩
    exact ⟨_, parse_eq_assemble reads ▸ assemble_ok_iff.2 .nil⟩

theorem outside_blocks_of_free (free : ¬ opener <:+: document) :
    QuietOutsideBlocks document ∧ textOutsideBlocks document = document ∧
      ∀ policy context, unwritableDate? policy document context = none := by
  obtain ⟨-, single | ⟨rfl, nothing⟩⟩ := scan_of_free free
  · have outside : outsideBlocks document = [.literal document] := by
      rw [outsideBlocks, single]
      rfl
    refine ⟨?_, by rw [textOutsideBlocks, outside, List.flatMap_singleton, text], ?_⟩
    · intro fragment member name named
      rw [outside, List.mem_singleton] at member
      subst member
      cases named
    · intro policy context
      rw [unwritableDate?, directivesOutsideBlocks, outside]
      rfl
  · have outside : outsideBlocks [] = [] := by
      rw [outsideBlocks, nothing]
      rfl
    refine ⟨?_, by rw [textOutsideBlocks, outside, List.flatMap_nil], ?_⟩
    · intro fragment member
      rw [outside] at member
      cases member
    · intro policy context
      rw [unwritableDate?, directivesOutsideBlocks, outside]
      rfl

/-- A document whose tags outside blocks are all of directives that write nothing asks the resolver
nothing, whatever the context is. Unless one of these tags reads a date that the format then in force
cannot write, its evaluation finishes with the document without its tags and blocks, and without
faults. With the first such date it breaks off; the format is then the default one or one that a tag
outside blocks sets. A document without openers can be read, and its evaluation finishes with the
document itself. -/
theorem conclusion_quiet_directives (policy : AttributePolicy) (document : Bytes)
    (resolver : Resolver) (context : Context) :
    (∀ nodes, Document.parse policy document = .ok nodes → QuietOutsideBlocks document →
      (evaluate resolver context nodes).2.calls = [] ∧
      (unwritableDate? policy document context = none →
        FinishesWith resolver context nodes (textOutsideBlocks document)) ∧
      ∀ format, unwritableDate? policy document context = some format →
        conclusion resolver context nodes = .brokenOff format ∧
        (TimeFormat.ofText format).isWritable = false ∧
        (format = context.defaults.timeFormat ∨ SetsFormat policy document format)) ∧
    (¬ opener <:+: document → ∃ nodes, Document.parse policy document = .ok nodes ∧
      (evaluate resolver context nodes).2.calls = [] ∧
      FinishesWith resolver context nodes document) := by
  constructor
  · intro nodes parsed quiet
    obtain ⟨calls, ends⟩ := conclusion_quiet parsed quiet resolver context
    refine ⟨calls, fun writable => ?_, fun format breaks => ?_⟩
    · rw [writable] at ends
      exact ends
    · rw [breaks] at ends
      exact ⟨ends, Standing.origin_of_breaks breaks⟩
  · intro free
    obtain ⟨nodes, parsed⟩ := parse_of_free policy free
    obtain ⟨quiet, same, writable⟩ := outside_blocks_of_free free
    obtain ⟨calls, ends⟩ := conclusion_quiet parsed quiet resolver context
    rw [writable policy context, same] at ends
    exact ⟨nodes, parsed, calls, ends⟩

/-- A variable is to hold the date, in a format with nothing but an offset that times are only read
with. It makes no difference that the variable is emptied again. -/
theorem conclusion_quiet_broken_off :
    let document := Bytes.ofText ("a<!--#config timefmt=\"%#z\" -->" ++
      "<!--#set var=\"x\" value=\"$DATE_GMT\" --><!--#set var=\"x\" value=\"\" -->b")
    let resolver := FileStore.empty.resolver
    let context : Context := .ofSettings .standard
    ∃ nodes, Document.parse .lenient document = .ok nodes ∧ QuietOutsideBlocks document ∧
      conclusion resolver context nodes = .brokenOff "%#z" ∧
      ∀ output, ¬FinishesWith resolver context nodes output := by
  intro document resolver context
  obtain ⟨nodes, parsed, -⟩ : ∃ nodes, Document.parse .lenient document = .ok nodes ∧
      nodes.length = 5 := ok_of_to_option (by decide +kernel)
  obtain ⟨quiet, breaks⟩ : QuietOutsideBlocks document ∧
      unwritableDate? .lenient document context = some "%#z" := by decide +kernel
  obtain ⟨-, ends⟩ := conclusion_quiet parsed quiet resolver context
  rw [breaks] at ends
  refine ⟨nodes, parsed, quiet, ends, ?_⟩
  rintro output ⟨after, finished⟩
  rw [ends] at finished
  cases finished

/-- An inclusion in a block within a block is not come to, and octets that are no text stay. A date is
hidden behind a variable of its name before the format is set that cannot write it. -/
theorem conclusion_quiet_nested_blocks :
    let document := Bytes.ofText "a<!--#set var=\"DATE_GMT\" value=\"1\" -->" ++ [0xFF] ++
      Bytes.ofText ("<!--#Nope x=\"1\" -->b<!--#config timefmt=\"%#z\" -->" ++
        "<!--#block name=\"v\" -->in<!--#block name=\"w\" -->" ++
        "<!--#include file=\"$DATE_LOCAL\" --><!--#endblock -->in<!--#endblock -->c" ++
        "<!--#set var=\"x\" value=\"$DATE_GMT\" -->")
    let plain := Bytes.ofText "a" ++ [0xFF] ++ Bytes.ofText "<!-- no tag -->"
    let resolver := FileStore.empty.resolver
    let context : Context := .ofSettings .standard
    (∃ nodes, Document.parse .strict document = .ok nodes ∧ QuietOutsideBlocks document ∧
      unwritableDate? .strict document context = none ∧
      textOutsideBlocks document = [0x61, 0xFF, 0x62, 0x63] ∧
      FinishesWith resolver context nodes (textOutsideBlocks document)) ∧
    ¬ opener <:+: plain ∧ ∃ nodes, Document.parse .strict plain = .ok nodes ∧
      FinishesWith resolver context nodes plain := by
  intro document plain resolver context
  obtain ⟨nodes, parsed, -⟩ : ∃ nodes, Document.parse .strict document = .ok nodes ∧
      nodes.length = 9 := ok_of_to_option (by decide +kernel)
  obtain ⟨quiet, writable, same⟩ : QuietOutsideBlocks document ∧
      unwritableDate? .strict document context = none ∧
      textOutsideBlocks document = [0x61, 0xFF, 0x62, 0x63] := by decide +kernel
  have free : ¬ opener <:+: plain := by decide +kernel
  obtain ⟨plainNodes, plainParsed, -, plainEnds⟩ :=
    (conclusion_quiet_directives .strict plain resolver context).2 free
  refine ⟨⟨nodes, parsed, quiet, writable, same, ?_⟩, free, plainNodes, plainParsed,
    plainEnds⟩
  exact ((conclusion_quiet_directives .strict document resolver context).1 nodes parsed quiet).2.1
    writable

end ServerIncludes.QuietDirectives
