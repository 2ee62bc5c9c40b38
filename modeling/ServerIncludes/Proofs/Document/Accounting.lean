import ServerIncludes.Proofs.Document.Attributes
import ServerIncludes.Proofs.Document.Nesting
import ServerIncludes.Proofs.Document.Scanning

/-! The tree of a document accounts for every octet once. A node is made of its own tags and of the
nodes between them; what these stand in tiles the node, and every tag is a fragment of the document.
A tree that is flattened, each node into what it is made of, is the document fragment by fragment. -/
namespace ServerIncludes.Accounting

open DirectiveAttributes Nesting Parts Scanning
open Fragments (scan)

/-- What nodes are made of. -/
inductive Item where
  | text (bytes : Bytes)
  | tag (directive : Directive)
  | node (node : Node)

def leafItem : Leaf → Item
  | .literal bytes => .text bytes
  | content => .tag (.leaf content)

theorem leaf_item_of_tag (notText : ∀ bytes, content ≠ .literal bytes) :
    leafItem content = .tag (.leaf content) := by
  cases content with
  | literal bytes => exact absurd rfl (notText bytes)
  | _ => rfl

/-- The branches of a conditional after its first one: a tag for each, and the nodes behind it. -/
def branchItems : Branches → List Item
  | .done => []
  | .otherwise body => .tag .otherwise :: body.map .node
  | .elif condition body rest => .tag (.elif condition) :: (body.map .node ++ branchItems rest)

/-- What a node is made of, in order. -/
def items : Node → List Item
  | .leaf _ content => [leafItem content]
  | .conditional _ condition body rest =>
    .tag (.startIf condition) :: (body.map .node ++ branchItems rest ++ [.tag .endIf])
  | .block _ name body => .tag (.startBlock name) :: (body.map .node ++ [.tag .endBlock])

/-- A node is another one or stands in it, at any depth. -/
inductive Inside (node : Node) : Node → Prop where
  | here : Inside node node
  | deeper (child : .node held ∈ items parent) (inside : Inside node held) : Inside node parent

/-- What an item stands in: text and tags in a fragment of the document that says the same, nodes in
their own spans. -/
def Occupies (policy : AttributePolicy) (document : Bytes) : Item → Span → Prop
  | .text bytes, span => (span, .literal bytes) ∈ (scan document).placed ∧
    slice document span.start span.stop = bytes
  | .tag directive, span => ∃ body, (span, .tag body) ∈ (scan document).placed ∧
    directiveOf policy (.tag body) = .ok directive
  | .node node, span => span = node.span

/-- Spans that make up all octets from one place to another, each of them once and in order. -/
structure Covers (start : Nat) (spans : List Span) (stop : Nat) : Prop where
  tiles : Tiles start spans stop
  nonempty : ∀ span ∈ spans, span.start < span.stop
  within : ∀ span ∈ spans, start ≤ span.start ∧ span.stop ≤ stop
  ordered : spans.Pairwise fun first second => first.stop ≤ second.start
  complete : ∀ place, start ≤ place → place < stop →
    ∃ span ∈ spans, span.start ≤ place ∧ place < span.stop

/-- What a node is made of covers its span. -/
def Accounted (policy : AttributePolicy) (document : Bytes) (node : Node) : Prop :=
  ∃ spans, List.Forall₂ (Occupies policy document) (items node) spans ∧
    Covers node.span.start spans node.span.stop

/-- Items that are some placed fragments once every node is replaced by what it is made of. A node
starts where the first of its fragments does and ends where the last one does. -/
inductive Flattens (policy : AttributePolicy) : List Item → List (Span × Fragment) → Prop where
  | nil : Flattens policy [] []
  | text (later : Flattens policy rest placed) :
    Flattens policy (.text bytes :: rest) ((span, .literal bytes) :: placed)
  | tag (read : directiveOf policy (.tag body) = .ok directive)
      (later : Flattens policy rest placed) :
    Flattens policy (.tag directive :: rest) ((span, .tag body) :: placed)
  | node (own : Flattens policy (items node) inside)
      (spans : Tiles node.span.start (inside.map (·.1)) node.span.stop)
      (later : Flattens policy rest placed) :
    Flattens policy (.node node :: rest) (inside ++ placed)

/-! ## Spans that tile -/

theorem tiles_append {first second : List Span} :
    Tiles start (first ++ second) stop ↔ ∃ middle, Tiles start first middle ∧
      Tiles middle second stop := by
  induction first generalizing start with
  | nil => simp [Tiles]
  | cons span first ih =>
    simp only [List.cons_append, Tiles, ih]
    constructor
    · rintro ⟨starts, middle, before, after⟩
      exact ⟨middle, ⟨starts, before⟩, after⟩
    · rintro ⟨middle, ⟨starts, before⟩, after⟩
      exact ⟨starts, middle, before, after⟩

/-- Spans that tile end where the last of them ends. -/
theorem tiles_close {spans : List Span} {last : Span} (tiles : Tiles start (spans ++ [last]) stop) :
    Tiles start (spans ++ [last]) last.stop := by
  obtain ⟨middle, before, starts, ends⟩ := tiles_append.1 tiles
  exact tiles_append.2 ⟨middle, before, starts, rfl⟩

/-- Spans from one place to another only differ from where they tile if there are none. -/
theorem tiles_unique {spans : List Span} (some : spans ≠ []) (first : Tiles start spans stop)
    (second : Tiles start' spans stop') : start = start' ∧ stop = stop' := by
  induction spans generalizing start start' with
  | nil => exact absurd rfl some
  | cons span spans ih =>
    refine ⟨first.1.symm.trans second.1, ?_⟩
    cases spans with
    | nil => exact first.2.symm.trans second.2
    | cons next spans => exact (ih (List.cons_ne_nil _ _) first.2 second.2).2

theorem tiles_le {spans : List Span} (tiles : Tiles start spans stop)
    (nonempty : ∀ span ∈ spans, span.start < span.stop) : start ≤ stop := by
  induction spans generalizing start with
  | nil => exact Nat.le_of_eq tiles
  | cons span spans ih =>
    obtain ⟨here, nonempty⟩ := List.forall_mem_cons.1 nonempty
    have behind := ih tiles.2 nonempty
    have starts := tiles.1
    omega

theorem covers_of_tiles {spans : List Span} (tiles : Tiles start spans stop)
    (nonempty : ∀ span ∈ spans, span.start < span.stop) : Covers start spans stop := by
  induction spans generalizing start with
  | nil =>
    have same : start = stop := tiles
    refine ⟨tiles, nonempty, nofun, .nil, ?_⟩
    intro place after before
    omega
  | cons span spans ih =>
    obtain ⟨starts, later⟩ := tiles
    obtain ⟨here, others⟩ := List.forall_mem_cons.1 nonempty
    have behind := ih later others
    have ends := tiles_le later others
    refine ⟨⟨starts, later⟩, nonempty, ?_, ?_, ?_⟩
    · intro other member
      rcases List.mem_cons.1 member with rfl | member
      · omega
      · have bounds := behind.within other member
        omega
    · refine List.pairwise_cons.2 ⟨?_, behind.ordered⟩
      intro other member
      exact (behind.within other member).1
    · intro place after before
      by_cases inside : place < span.stop
      · exact ⟨span, List.mem_cons_self, by omega, inside⟩
      · obtain ⟨other, member, contains⟩ := behind.complete place (by omega) before
        exact ⟨other, List.mem_cons_of_mem _ member, contains⟩

/-! ## Flattening a derivation -/

theorem flattens_append (first : Flattens policy before placed)
    (second : Flattens policy after more) :
    Flattens policy (before ++ after) (placed ++ more) := by
  induction first with
  | nil => exact second
  | text later ih => exact .text ih
  | tag read later ih => exact .tag read ih
  | node own spans later _ ih =>
    rw [List.append_assoc]
    exact .node own spans ih

theorem stand_append {placed : List (Span × Fragment)}
    (stand : Stand policy placed (before ++ after)) :
    ∃ first second, placed = first ++ second ∧ Stand policy first before ∧
      Stand policy second after :=
  ⟨_, _, (List.take_append_drop before.length placed).symm,
    List.forall₂_take_append _ _ _ stand, List.forall₂_drop_append _ _ _ stand⟩

theorem stand_cons {placed : List (Span × Fragment)}
    (stand : Stand policy placed ((span, directive) :: symbols)) :
    ∃ fragment later, placed = (span, fragment) :: later ∧
      directiveOf policy fragment = .ok directive ∧ Stand policy later symbols := by
  obtain ⟨⟨place, fragment⟩, later, ⟨rfl, read⟩, behind, rfl⟩ :=
    List.forall₂_cons_right_iff.1 stand
  exact ⟨fragment, later, rfl, read, behind⟩

/-- No tag stands for text. -/
theorem not_literal_of_tag (read : directiveOf policy (.tag body) = .ok directive)
    (bytes : Bytes) : directive ≠ .leaf (.literal bytes) := by
  obtain ⟨tag, found, stands⟩ := ok_of_bind read
  obtain ⟨attributes, named, within, describes⟩ := describes_of_tag stands
  exact not_literal_of_describes describes bytes

/-- A directive that is no text was read from a tag. -/
theorem tag_of_directive {fragment : Fragment} (read : directiveOf policy fragment = .ok directive)
    (notText : ∀ bytes, directive ≠ .leaf (.literal bytes)) : ∃ body, fragment = .tag body := by
  cases fragment with
  | literal bytes =>
    cases read
    exact absurd rfl (notText bytes)
  | tag body => exact ⟨body, rfl⟩

theorem flattens_leaf {fragment : Fragment}
    (read : directiveOf policy fragment = .ok (.leaf content)) :
    Flattens policy [leafItem content] [(span, fragment)] := by
  cases fragment with
  | literal bytes =>
    cases read
    exact .text .nil
  | tag body =>
    have notText := not_literal_of_tag read
    rw [leaf_item_of_tag fun bytes same => notText bytes (congrArg _ same)]
    exact .tag read .nil

theorem flattens_tag {fragment : Fragment} (read : directiveOf policy fragment = .ok directive)
    (notText : ∀ bytes, directive ≠ .leaf (.literal bytes)) :
    Flattens policy [.tag directive] [(span, fragment)] := by
  obtain ⟨body, rfl⟩ := tag_of_directive read notText
  exact .tag read .nil

/-- The spans of some fragments follow one another, from wherever to wherever. -/
def Contiguous (placed : List (Span × Fragment)) : Prop :=
  ∃ start stop, Tiles start (placed.map (·.1)) stop

theorem contiguous_append {first second : List (Span × Fragment)}
    (contiguous : Contiguous (first ++ second)) : Contiguous first ∧ Contiguous second := by
  obtain ⟨start, stop, tiles⟩ := contiguous
  rw [List.map_append] at tiles
  obtain ⟨middle, before, after⟩ := tiles_append.1 tiles
  exact ⟨⟨start, middle, before⟩, ⟨middle, stop, after⟩⟩

theorem contiguous_cons {placed : Span × Fragment} {later : List (Span × Fragment)}
    (contiguous : Contiguous (placed :: later)) : Contiguous later :=
  (contiguous_append (List.singleton_append ▸ contiguous : Contiguous ([placed] ++ later))).2

/-- Contiguous fragments tile from the start of the first one to the end of the last one. -/
theorem tiles_of_contiguous {inside : List (Span × Fragment)} {fragment fragment' : Fragment}
    (contiguous : Contiguous ((opener, fragment) :: (inside ++ [(closer, fragment')]))) :
    Tiles opener.start (((opener, fragment) :: (inside ++ [(closer, fragment')])).map (·.1))
      closer.stop := by
  obtain ⟨start, stop, starts, tiles⟩ := contiguous
  rw [List.map_append] at tiles
  refine ⟨rfl, ?_⟩
  rw [List.map_append]
  exact tiles_close tiles

/-- Two tags with what stands between them. -/
theorem flattens_between {fragment fragment' : Fragment}
    (opens : directiveOf policy fragment = .ok first)
    (closes : directiveOf policy fragment' = .ok last)
    (notText : ∀ bytes, first ≠ .leaf (.literal bytes) ∧ last ≠ .leaf (.literal bytes))
    (between : Flattens policy held inside) :
    Flattens policy (.tag first :: (held ++ [.tag last]))
      ((opener, fragment) :: (inside ++ [(closer, fragment')])) :=
  flattens_append (flattens_tag opens fun bytes => (notText bytes).1)
    (flattens_append between (flattens_tag closes fun bytes => (notText bytes).2))

mutual

/-- Nodes that fragments make up are flattened into these. -/
theorem flattens_of_derives : Derives symbols nodes → ∀ placed, Stand policy placed symbols →
    Contiguous placed → Flattens policy (nodes.map .node) placed
  | .nil, placed, stand, _ => by
    rw [List.forall₂_nil_right_iff.1 stand]
    exact .nil
  | @Derives.leaf _ _ span content later, placed, stand, contiguous => by
    obtain ⟨fragment, behind, rfl, read, stand⟩ := stand_cons stand
    have own : Flattens policy (items (.leaf span content)) [(span, fragment)] :=
      flattens_leaf read
    exact .node own ⟨rfl, rfl⟩
      (flattens_of_derives later behind stand (contiguous_cons contiguous))
  | @Derives.conditional _ _ _ _ _ _ openerSpan closerSpan _ body branches later, placed, stand,
      contiguous => by
    rw [List.cons_append, List.append_assoc] at stand
    obtain ⟨opener, behind, rfl, opens, stand⟩ := stand_cons stand
    obtain ⟨inside, behind, rfl, standBody, stand⟩ := stand_append stand
    obtain ⟨tail, behind, rfl, standBranches, stand⟩ := stand_append stand
    obtain ⟨closer, behind, rfl, closes, stand⟩ := stand_cons stand
    have inBody := (contiguous_append (contiguous_cons contiguous)).1
    have inBranches :=
      (contiguous_append (contiguous_append (contiguous_cons contiguous)).2).1
    have whole : (openerSpan, opener) :: (inside ++ (tail ++ (closerSpan, closer) :: behind)) =
        (openerSpan, opener) :: (inside ++ tail ++ [(closerSpan, closer)]) ++ behind := by simp
    rw [whole] at contiguous ⊢
    obtain ⟨around, after⟩ := contiguous_append contiguous
    have first := flattens_of_derives body inside standBody inBody
    have rest := flattens_of_branches branches tail standBranches inBranches
    refine .node ?_ (tiles_of_contiguous around) (flattens_of_derives later behind stand after)
    exact flattens_between opens closes (fun _ => ⟨nofun, nofun⟩) (flattens_append first rest)
  | @Derives.block _ _ _ _ openerSpan closerSpan _ body later, placed, stand, contiguous => by
    rw [List.cons_append] at stand
    obtain ⟨opener, behind, rfl, opens, stand⟩ := stand_cons stand
    obtain ⟨inside, behind, rfl, standBody, stand⟩ := stand_append stand
    obtain ⟨closer, behind, rfl, closes, stand⟩ := stand_cons stand
    have inBody := (contiguous_append (contiguous_cons contiguous)).1
    have whole : (openerSpan, opener) :: (inside ++ (closerSpan, closer) :: behind) =
        (openerSpan, opener) :: (inside ++ [(closerSpan, closer)]) ++ behind := by simp
    rw [whole] at contiguous ⊢
    obtain ⟨around, after⟩ := contiguous_append contiguous
    have held := flattens_of_derives body inside standBody inBody
    refine .node ?_ (tiles_of_contiguous around) (flattens_of_derives later behind stand after)
    exact flattens_between opens closes (fun _ => ⟨nofun, nofun⟩) held

theorem flattens_of_branches : DerivesBranches symbols rest → ∀ placed,
    Stand policy placed symbols → Contiguous placed → Flattens policy (branchItems rest) placed
  | .done, placed, stand, _ => by
    rw [List.forall₂_nil_right_iff.1 stand]
    exact .nil
  | .otherwise body, placed, stand, contiguous => by
    obtain ⟨fragment, behind, rfl, read, stand⟩ := stand_cons stand
    have inside := flattens_of_derives body behind stand (contiguous_cons contiguous)
    exact flattens_append (flattens_tag read nofun) inside
  | .elif body later, placed, stand, contiguous => by
    obtain ⟨fragment, behind, rfl, read, stand⟩ := stand_cons stand
    obtain ⟨inside, tail, rfl, standBody, stand⟩ := stand_append stand
    obtain ⟨inBody, behind⟩ := contiguous_append (contiguous_cons contiguous)
    have held := flattens_of_derives body inside standBody inBody
    have rest := flattens_of_branches later tail stand behind
    exact flattens_append (flattens_tag read nofun) (flattens_append held rest)

end

/-! ## Accounting for what is flattened -/

/-- A node is made of at least one fragment. -/
theorem fragments_of_node (flattens : Flattens policy (items node) inside) : inside ≠ [] := by
  cases node with
  | leaf span content =>
    cases content <;> cases flattens <;> exact List.cons_ne_nil _ _
  | conditional span condition body rest =>
    cases flattens
    exact List.cons_ne_nil _ _
  | block span name body =>
    cases flattens
    exact List.cons_ne_nil _ _

theorem tiles_lt {spans : List Span} (some : spans ≠ []) (tiles : Tiles start spans stop)
    (nonempty : ∀ span ∈ spans, span.start < span.stop) : start < stop := by
  obtain ⟨first, later, rfl⟩ := List.exists_cons_of_ne_nil some
  obtain ⟨here, others⟩ := List.forall_mem_cons.1 nonempty
  have behind := tiles_le tiles.2 others
  have starts := tiles.1
  omega

/-- Items that are flattened into fragments of a document stand in spans that tile as those do, and
the nodes among them are accounted for at any depth. -/
theorem accounted_of_flattens (flattens : Flattens policy list placed)
    (known : ∀ entry ∈ placed, entry ∈ (scan document).placed)
    (tiles : Tiles start (placed.map (·.1)) stop) :
    (∃ spans, List.Forall₂ (Occupies policy document) list spans ∧ Covers start spans stop) ∧
      ∀ child, .node child ∈ list → ∀ node, Inside node child → Accounted policy document node := by
  have partition := placed_partition document
  induction flattens generalizing start stop with
  | nil => exact ⟨⟨[], .nil, covers_of_tiles tiles nofun⟩, nofun⟩
  | @text rest placed bytes span later ih =>
    obtain ⟨here, known⟩ := List.forall_mem_cons.1 known
    obtain ⟨⟨spans, occupied, covers⟩, nested⟩ := ih known tiles.2
    refine ⟨⟨span :: spans, .cons ⟨here, (partition.literal _ _ here).1⟩ occupied, ?_⟩, ?_⟩
    · exact covers_of_tiles ⟨tiles.1, covers.tiles⟩
        (List.forall_mem_cons.2 ⟨(partition.nonempty _ _ here).1, covers.nonempty⟩)
    · intro child member
      exact nested child ((List.mem_cons.1 member).resolve_left nofun)
  | @tag body directive rest placed span read later ih =>
    obtain ⟨here, known⟩ := List.forall_mem_cons.1 known
    obtain ⟨⟨spans, occupied, covers⟩, nested⟩ := ih known tiles.2
    refine ⟨⟨span :: spans, .cons ⟨body, here, read⟩ occupied, ?_⟩, ?_⟩
    · exact covers_of_tiles ⟨tiles.1, covers.tiles⟩
        (List.forall_mem_cons.2 ⟨(partition.nonempty _ _ here).1, covers.nonempty⟩)
    · intro child member
      exact nested child ((List.mem_cons.1 member).resolve_left nofun)
  | @node node inside rest placed own spans later inner ih =>
    obtain ⟨knownInside, known⟩ := List.forall_mem_append.1 known
    rw [List.map_append] at tiles
    obtain ⟨middle, first, second⟩ := tiles_append.1 tiles
    have some : inside.map (·.1) ≠ [] := fun none =>
      fragments_of_node own (List.map_eq_nil_iff.1 none)
    obtain ⟨starts, stops⟩ := tiles_unique some spans first
    obtain ⟨⟨parts, filled, covered⟩, deeper⟩ := inner knownInside spans
    obtain ⟨⟨others, occupied, covers⟩, nested⟩ := ih known second
    refine ⟨⟨node.span :: others, .cons rfl occupied, ?_⟩, ?_⟩
    · have nonempty : node.span.start < node.span.stop := by
        refine tiles_lt some spans fun span member => ?_
        obtain ⟨entry, held, rfl⟩ := List.mem_map.1 member
        exact (partition.nonempty _ _ (knownInside entry held)).1
      refine covers_of_tiles ⟨starts, ?_⟩ (List.forall_mem_cons.2 ⟨nonempty, covers.nonempty⟩)
      rw [stops]
      exact covers.tiles
    · intro child member found inside
      rcases List.mem_cons.1 member with same | member
      · cases same
        cases inside with
        | here => exact ⟨parts, filled, covered⟩
        | deeper child inside => exact deeper _ child _ inside
      · exact nested child member found inside

/-- A document that is accepted ends with its last fragment. -/
theorem placed_tiles (terminated : (scan document).unterminated? = none) :
    Tiles 0 ((scan document).placed.map (·.1)) document.length := by
  have nothing : (scan document).rest = [] := by
    simpa [Fragments.unterminated?] using terminated
  have spelled := congrArg List.length (scan_cut document).1
  rw [Scanning.spelled, nothing, List.append_nil, length_sources] at spelled
  rw [← spelled]
  exact (placed_partition document).tiles

theorem spans_of_nodes {nodes : List Node}
    (occupied : List.Forall₂ (Occupies policy document) (nodes.map .node) spans) :
    spans = nodes.map Node.span := by
  induction nodes generalizing spans with
  | nil =>
    cases occupied
    rfl
  | cons node nodes ih =>
    cases occupied with
    | cons here later =>
      rw [List.map_cons, ← ih later]
      exact congrArg (· :: _) here

/-- The tree of a document accounts for every octet once. The nodes cover the document from its first
octet to its last one; each node, at any depth, is covered by its own tags, which are whole fragments
of the document, and the nodes between them; and flattened, the tree is the document fragment by
fragment. -/
theorem parse_accounts (parsed : Document.parse policy document = .ok nodes) :
    Covers 0 (nodes.map Node.span) document.length ∧
      (∀ top ∈ nodes, ∀ node, Inside node top → Accounted policy document node) ∧
      Flattens policy (nodes.map .node) (scan document).placed := by
  obtain ⟨symbols, reads, derives⟩ := reads_of_parse parsed
  have tiles := placed_tiles reads.terminated
  have flattens := flattens_of_derives derives _ reads.valid ⟨_, _, tiles⟩
  obtain ⟨⟨spans, occupied, covers⟩, nested⟩ :=
    accounted_of_flattens flattens (fun _ member => member) tiles
  rw [spans_of_nodes occupied] at covers
  exact ⟨covers, fun top member => nested top (List.mem_map_of_mem member), flattens⟩

/-- A block in the last branch of a conditional: seven fragments, the first and the last of them the
tags of the conditional. -/
theorem parse_accounts_nested :
    ∃ nodes,
      Document.parse .strict (Bytes.ofText ("<!--#if expr=\"$a\" -->x<!--#else -->" ++
        "<!--#block name=\"b\" -->y<!--#endblock --><!--#endif -->")) = .ok nodes ∧
      nodes.map Node.span = [⟨0, 90⟩] ∧ Covers 0 (nodes.map Node.span) 90 ∧
      (∀ top ∈ nodes, ∀ node, Inside node top → Accounted .strict
        (Bytes.ofText ("<!--#if expr=\"$a\" -->x<!--#else -->" ++
          "<!--#block name=\"b\" -->y<!--#endblock --><!--#endif -->")) node) ∧
      Flattens .strict (nodes.map .node)
        (scan (Bytes.ofText ("<!--#if expr=\"$a\" -->x<!--#else -->" ++
          "<!--#block name=\"b\" -->y<!--#endblock --><!--#endif -->"))).placed :=
  (ok_of_to_option (by decide +kernel)).imp fun _ found =>
    ⟨found.1, found.2, parse_accounts found.1⟩

end ServerIncludes.Accounting
