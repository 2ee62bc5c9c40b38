import ServerIncludes.Proofs.Document.Accounting
import ServerIncludes.Proofs.Document.Held
import ServerIncludes.Proofs.Evaluation.Positions

/-! What goes wrong when a document is evaluated is reported at the tag where it did: an offset at which
a tag of the document starts, and the name in that tag, also if the tag stands in a block that another
one has called for. Without blocks, tags are come to in the order of the document, and so are faults. -/
namespace ServerIncludes.ReportedTags

open Accounting (Accounted Occupies accounted_of_flattens flattens_of_derives leaf_item_of_tag
  placed_tiles tag_of_directive tiles_append tiles_le)
open DirectiveAttributes (describes_of_tag)
open Failures Likenesses Plans Positions Questions Rearrangement
open Fragments (scan)
open HeldAttributes (spelling_of_describes)
open Nesting (Derives DerivesBranches Reads Stand Symbol directiveOf reads_of_parse spelling)
open Parts (ok_of_bind ok_of_to_option)
open Scanning (Tiles placed_partition)

/-- The name in a tag, in lower case. -/
def tagName? : Fragment → Option String
  | .literal _ => none
  | .tag body => (Bytes.text? body).map fun text =>
    Tag.lower ((text.toList.dropWhile Unicode.isBlank).takeWhile Char.isAlpha)

/-- Where a site says, a tag of the document starts whose name is that of the directive. -/
def AtTag (document : Bytes) (site : Site) : Prop :=
  ∃ placed ∈ (scan document).placed, site.offset = placed.1.start ∧
    tagName? placed.2 = some site.directive

/-- No tag of the document opens a block. -/
def Blockless (document : Bytes) : Prop :=
  ∀ placed ∈ (scan document).placed, tagName? placed.2 ≠ some "block"

instance (document : Bytes) : Decidable (Blockless document) := List.decidableBAll _ _

/-! ## Tags of nodes -/

theorem name_of_body (spelled : Tag.ofBody body = .ok tag) : tagName? (.tag body) = some tag.name := by
  unfold Tag.ofBody at spelled
  cases readable : Bytes.text? body with
  | none => simp [readable] at spelled
  | some text =>
    simp only [readable] at spelled
    cases read : Tag.read text.toList with
    | error fault => cases fault <;> simp [read] at spelled
    | ok found =>
      simp only [read, Except.ok.injEq] at spelled
      rw [tagName?, readable, Option.map_some, ← spelled]
      unfold Tag.read at read
      simp only at read
      split at read
      · cases read
      · split at read
        · cases read
        · cases read
          rfl

/-- What a tag stands for has the name of the tag. -/
theorem name_of_read (read : directiveOf policy (.tag body) = .ok directive) :
    tagName? (.tag body) = some (spelling directive) := by
  obtain ⟨tag, spelled, stands⟩ := ok_of_bind read
  obtain ⟨attributes, named, -, describes⟩ := describes_of_tag stands
  rw [name_of_body spelled, spelling_of_describes describes, named]

theorem accounted_of_parse (parsed : Document.parse policy document = .ok nodes)
    (held : Has nodes node) : Accounted policy document node := by
  obtain ⟨symbols, reads, derives⟩ := reads_of_parse parsed
  have tiles := placed_tiles reads.terminated
  have flattens := flattens_of_derives derives _ reads.valid ⟨_, _, tiles⟩
  obtain ⟨top, member, inside⟩ := held
  exact (accounted_of_flattens flattens (fun _ known => known) tiles).2 top
    (List.mem_map_of_mem member) node inside

/-- A directive that holds no others starts where its tag does. -/
theorem at_tag_of_leaf (parsed : Document.parse policy document = .ok nodes)
    (held : Has nodes (.leaf span content)) (notText : ∀ bytes, content ≠ .literal bytes) :
    AtTag document (siteOf (.leaf span content)) := by
  obtain ⟨spans, occupied, covers⟩ := accounted_of_parse parsed held
  cases occupied with
  | @cons _ place _ rest own others =>
    rw [leaf_item_of_tag notText] at own
    obtain ⟨body, known, read⟩ := own
    exact ⟨(place, .tag body), known, covers.tiles.1.symm, name_of_read read⟩

theorem has_of_same_position (same : SamePosition first second node node') : Has first node := by
  induction same with
  | top here there => exact has_of_mem (List.mem_of_getElem? here)
  | part wholes here there ih => exact has_item ih (mem_parts.1 (List.mem_of_getElem? here))

/-- Whatever is reported on a tree is reported at one of its directives. -/
theorem at_tag_of_paired (parsed : Document.parse policy document = .ok nodes)
    (paired : PairedSites (SamePosition nodes nodes) site site') : AtTag document site := by
  cases paired with
  | leaf notText same => exact at_tag_of_leaf parsed (has_of_same_position same) notText

/-! ## Faults in order -/

/-- Faults in the order of their offsets, all of them from one place up to another. -/
structure Ordered (low high : Nat) (faults : List Fault) : Prop where
  within : ∀ fault ∈ faults, low ≤ fault.site.offset ∧ fault.site.offset ≤ high
  sorted : faults.Pairwise fun earlier later => earlier.site.offset ≤ later.site.offset

theorem ordered_nil (low high : Nat) : Ordered low high [] :=
  ⟨List.forall_mem_nil _, .nil⟩

theorem ordered_wider (ordered : Ordered low high faults) (lower : low' ≤ low)
    (higher : high ≤ high') : Ordered low' high' faults where
  within fault member := by
    have bounds := ordered.within fault member
    omega
  sorted := ordered.sorted

theorem ordered_append (first : Ordered low middle faults) (second : Ordered middle high later)
    (lower : low ≤ middle) (higher : middle ≤ high) : Ordered low high (faults ++ later) where
  within := List.forall_mem_append.2 ⟨(ordered_wider first (Nat.le_refl _) higher).within,
    (ordered_wider second lower (Nat.le_refl _)).within⟩
  sorted := by
    refine List.pairwise_append.2 ⟨first.sorted, second.sorted, ?_⟩
    intro fault before fault' after
    have upTo := (first.within fault before).2
    have from' := (second.within fault' after).1
    omega

section

variable {names : List String} {resolver : Resolver}

/-- As long as there are no blocks, a step defines none and records its faults in order. -/
def Orderly (low high : Nat) (step : Run names α) : Prop :=
  ∀ state, state.blocks = [] →
    (step state).state.blocks = [] ∧ Ordered low high (step state).log.faults

theorem orderly_pure (value : α) : Orderly low high (pure value : Run names α) :=
  fun _ none => ⟨none, ordered_nil _ _⟩

theorem orderly_ask (query : Query α) : Orderly low high (Run.ask query : Run names α) :=
  fun _ none => ⟨none, ordered_nil _ _⟩

theorem orderly_wider {step : Run names α} (orderly : Orderly low high step) (lower : low' ≤ low)
    (higher : high ≤ high') : Orderly low' high' step :=
  fun state none => ⟨(orderly state none).1, ordered_wider (orderly state none).2 lower higher⟩

theorem orderly_bind {step : Run names α} {next : α → Run names β} (first : Orderly low middle step)
    (later : ∀ value, Orderly middle high (next value)) (lower : low ≤ middle)
    (higher : middle ≤ high) : Orderly low high (step >>= next) := by
  intro state none
  obtain ⟨still, before⟩ := first state none
  cases ended : (step state).result with
  | error abort =>
    rw [bind_of_error ended]
    exact ⟨still, ordered_wider before (Nat.le_refl _) higher⟩
  | ok value =>
    rw [bind_of_ok ended]
    obtain ⟨finally', after⟩ := later value _ still
    exact ⟨finally', ordered_append before after lower higher⟩

/-- A condition chooses between two steps, and reports nothing itself. -/
theorem orderly_choice {taken others : Run names Unit} (query : Query Bool)
    (first : Orderly low middle taken) (second : Orderly middle high others) (lower : low ≤ middle)
    (higher : middle ≤ high) :
    Orderly low high (Run.ask query >>= fun holds => if holds then taken else others) := by
  refine orderly_bind (orderly_ask query) (fun holds => ?_) (Nat.le_refl _) (lower.trans higher)
  cases holds with
  | true => exact orderly_wider first (Nat.le_refl _) higher
  | false => exact orderly_wider second lower (Nat.le_refl _)

/-- All that a leaf reports, it reports where it stands. Without blocks it can be compared with itself
although no bodies are related. -/
theorem orderly_leaf (span : Span) (content : Leaf) (within : (Node.leaf span content).blockNames ⊆ names) :
    Orderly span.start span.start
      (Run.renderNode resolver (Run.expand resolver []) (.leaf span content) within) := by
  intro state none
  let here := siteOf (.leaf span content)
  let likeness := sameBesides (fun _ _ => False) fun site site' => site = here ∧ site' = here
  have bodies : AlikeBodies likeness resolver resolver names names :=
    fun _ _ related => False.elim related
  have expands : AlikeExpansions likeness (Run.expand resolver [] : Run.Expansion names)
      (Run.expand resolver []) := alike_expand bodies []
  have states : AlikeStates likeness state state := ⟨rfl, none ▸ .nil, rfl⟩
  have alike := alike_leaf (same_resolver resolver) (show likeness.sites here here from ⟨rfl, rfl⟩)
    expands content (fair_of_same (.leaf span content)) state state states
  have sites : ∀ fault ∈ (Run.renderLeaf resolver (Run.expand resolver []) here content state).log.faults,
      fault.site = here := fun fault member => (List.forall₂_same.1 alike.log.faults fault member).site.1
  simp only [Run.renderNode]
  constructor
  · have blocks := alike.state.blocks
    cases left : (Run.renderLeaf resolver (Run.expand resolver []) here content state).state.blocks with
    | nil => exact left
    | cons block rest =>
      rw [left] at blocks
      cases blocks with
      | cons first others => exact first.body.elim
  · constructor
    · intro fault member
      rw [sites fault member]
      exact ⟨Nat.le_refl _, Nat.le_refl _⟩
    · apply List.pairwise_of_forall_mem_list
      intro fault member fault' member'
      rw [sites fault member, sites fault' member']

end

/-! ## Documents without blocks -/

/-- Symbols of some length, none of which opens a block. -/
def Plain (symbols : List Symbol) : Prop :=
  ∀ symbol ∈ symbols, symbol.1.start < symbol.1.stop ∧ ∀ name, symbol.2 ≠ .startBlock name

theorem plain_cons {symbol : Symbol} :
    Plain (symbol :: symbols) ↔ (symbol.1.start < symbol.1.stop ∧
      ∀ name, symbol.2 ≠ .startBlock name) ∧ Plain symbols := List.forall_mem_cons

theorem plain_append : Plain (symbols ++ symbols') ↔ Plain symbols ∧ Plain symbols' :=
  List.forall_mem_append

theorem plain_le (plain : Plain symbols) (tiles : Tiles low (symbols.map (·.1)) high) :
    low ≤ high := by
  refine tiles_le tiles fun span member => ?_
  obtain ⟨symbol, held, rfl⟩ := List.mem_map.1 member
  exact (plain symbol held).1

/-- Fragments of some length that open no block are read as such. -/
theorem plain_of_stand {placed : List (Span × Fragment)} (stand : Stand policy placed symbols)
    (plain : ∀ entry ∈ placed, entry.1.start < entry.1.stop ∧ tagName? entry.2 ≠ some "block") :
    Plain symbols := by
  induction stand with
  | nil => exact List.forall_mem_nil _
  | @cons entry symbol _ _ here _ ih =>
    obtain ⟨⟨nonempty, notBlock⟩, others⟩ := List.forall_mem_cons.1 plain
    obtain ⟨same, read⟩ := here
    refine plain_cons.2 ⟨⟨same ▸ nonempty, fun name opens => notBlock ?_⟩, ih others⟩
    rw [opens] at read
    obtain ⟨body, tag⟩ := tag_of_directive read nofun
    rw [tag] at read ⊢
    exact name_of_read read

theorem spans_of_stand {placed : List (Span × Fragment)} (stand : Stand policy placed symbols) :
    symbols.map (·.1) = placed.map (·.1) := by
  induction stand with
  | nil => rfl
  | cons here _ ih => rw [List.map_cons, List.map_cons, ih, here.1]

section

variable {names : List String} (resolver : Resolver)

mutual

/-- What nodes report comes in their order, if none of them is a block. -/
theorem orderly_of_derives : Derives symbols nodes → Plain symbols →
    Tiles low (symbols.map (·.1)) high → ∀ within : Node.listBlockNames nodes ⊆ names,
      Orderly low high (Run.renderAll resolver (Run.expand resolver []) nodes within)
  | .nil, _, _, _ => by
    simp only [Run.renderAll]
    exact orderly_pure ()
  | @Derives.leaf _ _ span content later, plain, tiles, within => by
    obtain ⟨⟨nonempty, -⟩, others⟩ := plain_cons.1 plain
    obtain ⟨rfl, behind⟩ := tiles
    have here : Orderly span.start span.stop (Run.renderNode resolver (Run.expand resolver [])
        (.leaf span content) (names_of_first within)) :=
      orderly_wider (orderly_leaf span content _) (Nat.le_refl _) (Nat.le_of_lt nonempty)
    simp only [Run.renderAll]
    exact orderly_bind here (fun _ => orderly_of_derives later others behind _)
      (Nat.le_of_lt nonempty) (plain_le others behind)
  | @Derives.conditional inside first tail rest _ _ opener closer condition body branches later,
      plain, tiles, within => by
    rw [List.cons_append, List.append_assoc] at plain tiles
    obtain ⟨⟨opens, -⟩, plain⟩ := plain_cons.1 plain
    obtain ⟨inBody, plain⟩ := plain_append.1 plain
    obtain ⟨inRest, plain⟩ := plain_append.1 plain
    obtain ⟨⟨closes, -⟩, others⟩ := plain_cons.1 plain
    obtain ⟨rfl, tiles⟩ := tiles
    rw [List.map_append, List.map_append] at tiles
    obtain ⟨middle, ofBody, tiles⟩ := tiles_append.1 tiles
    obtain ⟨last, ofRest, rfl, behind⟩ := tiles_append.1 tiles
    have toRest : opener.stop ≤ middle := plain_le inBody ofBody
    have toCloser : middle ≤ closer.start := plain_le inRest ofRest
    have here : Orderly opener.stop closer.start (Run.renderNode resolver (Run.expand resolver [])
        (.conditional ⟨opener.start, closer.stop⟩ condition first rest) (names_of_first within)) := by
      simp only [Run.renderNode]
      exact orderly_choice condition.truth (orderly_of_derives body inBody ofBody _)
        (orderly_of_branches branches inRest ofRest _) toRest toCloser
    have around := orderly_wider here (Nat.le_of_lt opens) (Nat.le_of_lt closes)
    simp only [Run.renderAll]
    refine orderly_bind around (fun _ => orderly_of_derives later others behind _) ?_
      (plain_le others behind)
    exact Nat.le_of_lt (opens.trans_le (toRest.trans (toCloser.trans closes.le)))
  | .block body later, plain, _, _ => by
    obtain ⟨⟨-, opens⟩, -⟩ := plain_cons.1 plain
    exact absurd rfl (opens _)

theorem orderly_of_branches : DerivesBranches symbols rest → Plain symbols →
    Tiles low (symbols.map (·.1)) high → ∀ within : rest.blockNames ⊆ names,
      Orderly low high (Run.renderBranches resolver (Run.expand resolver []) rest within)
  | .done, _, _, _ => by
    simp only [Run.renderBranches]
    exact orderly_pure ()
  | .otherwise body, plain, tiles, _ => by
    obtain ⟨⟨nonempty, -⟩, others⟩ := plain_cons.1 plain
    obtain ⟨rfl, behind⟩ := tiles
    simp only [Run.renderBranches]
    exact orderly_wider (orderly_of_derives body others behind _) (Nat.le_of_lt nonempty)
      (Nat.le_refl _)
  | @DerivesBranches.elif inside nodes tail rest span condition body later, plain, tiles, within => by
    rw [List.cons_append] at plain tiles
    obtain ⟨⟨opens, -⟩, plain⟩ := plain_cons.1 plain
    obtain ⟨inBody, inRest⟩ := plain_append.1 plain
    obtain ⟨rfl, tiles⟩ := tiles
    rw [List.map_append] at tiles
    obtain ⟨middle, ofBody, ofRest⟩ := tiles_append.1 tiles
    have toRest : span.stop ≤ middle := plain_le inBody ofBody
    have toEnd : middle ≤ high := plain_le inRest ofRest
    simp only [Run.renderBranches]
    have choice := orderly_choice condition.truth
      (orderly_of_derives body inBody ofBody (names_of_elif within))
      (orderly_of_branches later inRest ofRest (names_of_others within)) toRest toEnd
    exact orderly_wider choice (Nat.le_of_lt opens) (Nat.le_refl _)

end

/-- Without blocks in the document, faults come in the order of their places. -/
theorem sorted_of_blockless (parsed : Document.parse policy document = .ok nodes)
    (blockless : Blockless document) (context : Context) :
    (outcomeOf resolver context nodes).log.faults.Pairwise fun earlier later =>
      earlier.site.offset ≤ later.site.offset := by
  obtain ⟨symbols, reads, derives⟩ := reads_of_parse parsed
  have plain : Plain symbols := plain_of_stand reads.valid fun entry placed =>
    ⟨((placed_partition document).nonempty _ _ placed).1, blockless entry placed⟩
  have tiles := placed_tiles reads.terminated
  rw [← spans_of_stand reads.valid] at tiles
  have orderly := orderly_of_derives resolver derives plain tiles (List.Subset.refl _)
  unfold outcomeOf
  rw [run_of_tree]
  exact (orderly _ rfl).2.sorted

end

/-- Every fault of an evaluation of a document is reported at a tag of the document that has the name
of the directive, and so is a fatal answer. Those that are recorded at the end are all that there were.
If no tag of the document opens a block, they are recorded in the order in which their tags start. -/
theorem evaluate_reports_tags (parsed : Document.parse policy document = .ok nodes)
    (resolver : Resolver) (context : Context) :
    let evaluated := evaluate resolver context nodes
    (∀ fault ∈ evaluated.2.faults, AtTag document fault.site) ∧
    (∀ abort, evaluated.1 = .error abort → AtTag document abort.site) ∧
    (∀ report, evaluated.1 = .ok report → report.faults = evaluated.2.faults) ∧
    (Blockless document → evaluated.2.faults.Pairwise fun earlier later =>
      earlier.site.offset ≤ later.site.offset) := by
  -- compared with itself, an evaluation reports at nodes of the tree
  obtain ⟨result, -, log⟩ := alike_mirrored (mirrors_of_moved rfl) resolver context
  intro evaluated
  have logs : evaluated.2 = (outcomeOf resolver context nodes).log :=
    log_of_evaluate resolver context nodes
  rw [logs]
  refine ⟨?_, ?_, ?_, ?_⟩
  · intro fault recorded
    exact at_tag_of_paired parsed (List.forall₂_same.1 log.faults fault recorded).site
  · intro abort ended
    rw [abort_of_evaluate ended] at result
    cases result with
    | error site _ => exact at_tag_of_paired parsed site
  · intro report ended
    exact faults_of_report ended
  · intro blockless
    exact sorted_of_blockless resolver parsed blockless context

/-- What goes wrong in the last branch of a conditional: an undefined variable, and an inclusion that
fails twice and is reported both times where its tag starts. -/
theorem evaluate_reports_branch :
    let document := Bytes.ofText ("<!--#IF expr=\"$a\" -->x<!--#ELSE --><!--#Echo var=\"b\" -->" ++
      "<!--#include virtual=\"/x\" onerror=\"/y\" --><!--#endif -->")
    let evaluated := evaluate FileStore.empty.resolver (Context.ofSettings .standard)
    ∃ nodes, Document.parse .strict document = .ok nodes ∧
      (evaluated nodes).2.faults.map (·.site) = [⟨35, "echo"⟩, ⟨56, "include"⟩, ⟨56, "include"⟩] ∧
      (∀ fault ∈ (evaluated nodes).2.faults, AtTag document fault.site) ∧ Blockless document ∧
      (evaluated nodes).2.faults.Pairwise fun earlier later =>
        earlier.site.offset ≤ later.site.offset := by
  intro document evaluated
  let reported (nodes : List Node) : List Site :=
    (Termination.renderWithin FileStore.empty.resolver (fun _ _ _ => pure none) 0
      (Evaluator.ofContext (Context.ofSettings .standard).resetSettings) nodes).2.log.faults.map (·.site)
  have found : (Document.parse .strict document).toOption.map
      (fun nodes => (Node.listBlockNames nodes, reported nodes)) =
        some ([], [⟨35, "echo"⟩, ⟨56, "include"⟩, ⟨56, "include"⟩]) := by decide +kernel
  obtain ⟨nodes, parsed, seen⟩ := ok_of_to_option found
  obtain ⟨none, sites⟩ := Prod.mk.inj seen
  have blockless : Blockless document := by decide +kernel
  obtain ⟨atTags, -, -, sorted⟩ :=
    evaluate_reports_tags parsed FileStore.empty.resolver (Context.ofSettings .standard)
  refine ⟨nodes, parsed, ?_, atTags, blockless, sorted blockless⟩
  rw [← sites]
  simp only [reported]
  rw [Termination.render_within_eq_render _ _ _ _ (by rw [none]; exact Nat.le_refl 0)]
  rfl

end ServerIncludes.ReportedTags
