import ServerIncludes.Proofs.Document.Held
import ServerIncludes.Proofs.Document.Scanning

/-! Documents are read back from the markup of their trees: text as it is, and every directive as a
tag with the attributes that it holds. Whatever policy a document was accepted under, its markup is
accepted under both, as a tree that differs from the first in nothing but where its nodes stand. -/
namespace ServerIncludes.DocumentWriting

open HeldAttributes Nesting Parts Scanning TagSpelling TagWriting
open Fragments (scan place)

/-! ## Markup -/

/-- What a directive is written as: text as it is, and everything else as a tag. -/
def fragmentOf : Directive → Fragment
  | .leaf (.literal bytes) => .literal bytes
  | directive => .tag (Bytes.ofChars (write (tagOf directive)))

/-- The octets of a directive. -/
def octets (directive : Directive) : Bytes := (fragmentOf directive).source

mutual

def nodeMarkup : Node → Bytes
  | .leaf _ content => octets (.leaf content)
  | .conditional _ condition body rest =>
    octets (.startIf condition) ++ (markup body ++ (branchesMarkup rest ++ octets .endIf))
  | .block _ name body => octets (.startBlock name) ++ (markup body ++ octets .endBlock)

def branchesMarkup : Branches → Bytes
  | .done => []
  | .otherwise body => octets .otherwise ++ markup body
  | .elif condition body rest => octets (.elif condition) ++ (markup body ++ branchesMarkup rest)

/-- The markup of nodes, one after another. -/
def markup : List Node → Bytes
  | [] => []
  | node :: rest => nodeMarkup node ++ markup rest

end

mutual

def eraseNode : Node → Node
  | .leaf _ content => .leaf ⟨0, 0⟩ content
  | .conditional _ condition body rest =>
    .conditional ⟨0, 0⟩ condition (eraseSpans body) (eraseBranches rest)
  | .block _ name body => .block ⟨0, 0⟩ name (eraseSpans body)

def eraseBranches : Branches → Branches
  | .done => .done
  | .otherwise body => .otherwise (eraseSpans body)
  | .elif condition body rest => .elif condition (eraseSpans body) (eraseBranches rest)

/-- Nodes without their places. -/
def eraseSpans : List Node → List Node
  | [] => []
  | node :: rest => eraseNode node :: eraseSpans rest

end

/-- The fragments that symbols are written as. -/
def fragments (symbols : List Symbol) : List Fragment :=
  symbols.map fun symbol => fragmentOf symbol.2

theorem fragments_append (before after : List Symbol) :
    fragments (before ++ after) = fragments before ++ fragments after := List.map_append

theorem fragments_cons (symbol : Symbol) (symbols : List Symbol) :
    fragments (symbol :: symbols) = fragmentOf symbol.2 :: fragments symbols := rfl

mutual

/-- The markup of a tree is that of its symbols. -/
theorem source_of_derives :
    Derives symbols nodes → (fragments symbols).flatMap Fragment.source = markup nodes
  | .nil => rfl
  | .leaf later => by
    rw [fragments_cons, List.flatMap_cons, source_of_derives later]
    rfl
  | .conditional body branches later => by
    simp only [List.cons_append, List.append_assoc, fragments_append, fragments_cons,
      List.flatMap_append, List.flatMap_cons, source_of_derives body,
      source_of_branches branches, source_of_derives later, markup, nodeMarkup, octets]
  | .block body later => by
    simp only [List.cons_append, List.append_assoc, fragments_append, fragments_cons,
      List.flatMap_append, List.flatMap_cons, source_of_derives body, source_of_derives later,
      markup, nodeMarkup, octets]

theorem source_of_branches :
    DerivesBranches symbols rest → (fragments symbols).flatMap Fragment.source = branchesMarkup rest
  | .done => rfl
  | .otherwise body => by
    rw [fragments_cons, List.flatMap_cons, source_of_derives body]
    rfl
  | .elif body later => by
    simp only [List.cons_append, fragments_append, fragments_cons,
      List.flatMap_append, List.flatMap_cons, source_of_derives body, source_of_branches later,
      branchesMarkup, octets]

end

/-! ## The same symbols elsewhere -/

/-- Symbols that differ in nothing but where they stand. -/
def Alike (others symbols : List Symbol) : Prop := others.map (·.2) = symbols.map (·.2)

theorem alike_nil (alike : Alike others []) : others = [] := by simpa [Alike] using alike

theorem alike_cons (alike : Alike others ((span, directive) :: symbols)) :
    ∃ elsewhere later, others = (elsewhere, directive) :: later ∧ Alike later symbols := by
  obtain ⟨symbol, later, whole, named, kept⟩ := List.map_eq_cons_iff.1 alike
  obtain ⟨elsewhere, other⟩ := symbol
  cases named
  exact ⟨elsewhere, later, whole, kept⟩

theorem alike_append (alike : Alike others (before ++ after)) :
    ∃ first second, others = first ++ second ∧ Alike first before ∧ Alike second after := by
  rw [Alike, List.map_append] at alike
  exact List.map_eq_append_iff.1 alike

mutual

/-- Symbols that stand elsewhere make up the same nodes elsewhere. -/
theorem derives_elsewhere : Derives symbols nodes → ∀ others, Alike others symbols →
    ∃ again, Derives others again ∧ eraseSpans again = eraseSpans nodes
  | .nil, others, alike => by
    rw [alike_nil alike]
    exact ⟨[], .nil, rfl⟩
  | .leaf later, others, alike => by
    obtain ⟨span, others, rfl, behind⟩ := alike_cons alike
    obtain ⟨again, derives, erased⟩ := derives_elsewhere later others behind
    refine ⟨_ :: again, .leaf derives, ?_⟩
    simp only [eraseSpans, eraseNode, erased]
  | @Derives.conditional _ _ _ _ _ _ _ _ condition body branches later, others, alike => by
    rw [List.cons_append, List.append_assoc] at alike
    obtain ⟨opener, others, rfl, behindOpener⟩ := alike_cons alike
    obtain ⟨inside, others, rfl, inBody, behindBody⟩ := alike_append behindOpener
    obtain ⟨tail, others, rfl, inBranches, behindBranches⟩ := alike_append behindBody
    obtain ⟨closer, others, rfl, behind⟩ := alike_cons behindBranches
    obtain ⟨first, derivesBody, sameBody⟩ := derives_elsewhere body inside inBody
    obtain ⟨rest, derivesRest, sameRest⟩ := branches_elsewhere branches tail inBranches
    obtain ⟨again, derives, erased⟩ := derives_elsewhere later others behind
    have whole : Derives ((opener, .startIf condition) :: (inside ++ tail) ++
        (closer, .endIf) :: others) _ := .conditional derivesBody derivesRest derives
    rw [List.cons_append, List.append_assoc] at whole
    refine ⟨_, whole, ?_⟩
    simp only [eraseSpans, eraseNode, sameBody, sameRest, erased]
  | .block body later, others, alike => by
    rw [List.cons_append] at alike
    obtain ⟨opener, others, rfl, behindOpener⟩ := alike_cons alike
    obtain ⟨inside, others, rfl, inBody, behindBody⟩ := alike_append behindOpener
    obtain ⟨closer, others, rfl, behind⟩ := alike_cons behindBody
    obtain ⟨held, derivesBody, sameBody⟩ := derives_elsewhere body inside inBody
    obtain ⟨again, derives, erased⟩ := derives_elsewhere later others behind
    refine ⟨_ :: again, .block derivesBody derives, ?_⟩
    simp only [eraseSpans, eraseNode, sameBody, erased]

theorem branches_elsewhere : DerivesBranches symbols rest → ∀ others, Alike others symbols →
    ∃ again, DerivesBranches others again ∧ eraseBranches again = eraseBranches rest
  | .done, others, alike => by
    rw [alike_nil alike]
    exact ⟨.done, .done, rfl⟩
  | .otherwise body, others, alike => by
    obtain ⟨span, others, rfl, inBody⟩ := alike_cons alike
    obtain ⟨again, derives, erased⟩ := derives_elsewhere body others inBody
    refine ⟨.otherwise again, .otherwise derives, ?_⟩
    simp only [eraseBranches, erased]
  | .elif body later, others, alike => by
    rw [List.cons_append] at alike
    obtain ⟨span, others, rfl, behindTag⟩ := alike_cons alike
    obtain ⟨inside, tail, rfl, inBody, behind⟩ := alike_append behindTag
    obtain ⟨held, derivesBody, sameBody⟩ := derives_elsewhere body inside inBody
    obtain ⟨again, derives, erased⟩ := branches_elsewhere later tail behind
    refine ⟨.elif _ held again, .elif derivesBody derives, ?_⟩
    simp only [eraseBranches, sameBody, erased]

end

/-! ## Reading the markup -/

theorem fragment_of_tag (notLiteral : ∀ bytes, directive ≠ .leaf (.literal bytes)) :
    fragmentOf directive = .tag (Bytes.ofChars (write (tagOf directive))) := by
  unfold fragmentOf
  split
  · exact absurd rfl (notLiteral _)
  · rfl

/-- A directive that a fragment stands for is read from what it is written as. That is the same
text, or a tag that can be written. -/
theorem read_fragment (read : directiveOf policy fragment = .ok directive) :
    (∀ other, directiveOf other (fragmentOf directive) = .ok directive) ∧
      match fragment with
      | .literal bytes => fragmentOf directive = .literal bytes
      | .tag _ => Writable (tagOf directive) ∧
        fragmentOf directive = .tag (Bytes.ofChars (write (tagOf directive))) := by
  cases fragment with
  | literal bytes =>
    cases read
    exact ⟨fun _ => rfl, rfl⟩
  | tag body =>
    obtain ⟨tag, found, stands⟩ := ok_of_bind read
    obtain ⟨writable, notLiteral, again⟩ := read_held found stands
    have written := fragment_of_tag notLiteral
    refine ⟨fun other => ?_, writable, written⟩
    rw [written, directiveOf, of_body_write writable]
    exact again other

theorem is_tag_of_read (read : directiveOf policy fragment = .ok directive) :
    (fragmentOf directive).isTag = fragment.isTag := by
  have kept := (read_fragment read).2
  cases fragment with
  | literal bytes => exact congrArg Fragment.isTag kept
  | tag body =>
    rw [kept.2]
    rfl

/-- Where a document has to be cut, it has to be cut again once its tags are written anew. -/
theorem cut_fragments {placed : List (Span × Fragment)} (stand : Stand policy placed symbols)
    (cut : Cut (placed.map (·.2)) []) : Cut (fragments symbols) [] := by
  induction stand with
  | nil => exact .inl rfl
  | @cons placed symbol later symbols reads stand ih =>
    obtain ⟨span, fragment⟩ := placed
    have kept := (read_fragment reads.2).2
    rw [fragments_cons]
    cases fragment with
    | literal bytes =>
      obtain ⟨nonempty, free, next, cut⟩ := cut
      have same : fragmentOf symbol.2 = .literal bytes := kept
      rw [same]
      refine ⟨nonempty, free, ?_, ih cut⟩
      cases stand with
      | nil => exact nofun
      | cons reads stand =>
        rintro _ ⟨⟩
        rw [is_tag_of_read reads.2]
        exact next _ rfl
    | tag body =>
      obtain ⟨writable, written⟩ := kept
      rw [written]
      exact ⟨first_closer_write writable _, ih cut.2⟩

theorem read_again {placed : List (Span × Fragment)} (stand : Stand policy placed symbols)
    (other : AttributePolicy) :
    ∀ symbol ∈ symbols, directiveOf other (fragmentOf symbol.2) = .ok symbol.2 := by
  induction stand with
  | nil => exact nofun
  | cons reads stand ih => exact List.forall_mem_cons.2 ⟨(read_fragment reads.2).1 other, ih⟩

/-- Directives are read from what they are written as, wherever the first of them is put. -/
theorem stand_fragments {symbols : List Symbol}
    (read : ∀ symbol ∈ symbols, directiveOf policy (fragmentOf symbol.2) = .ok symbol.2)
    (start : Nat) :
    ∃ others, Alike others symbols ∧ Stand policy (place start (fragments symbols)) others := by
  induction symbols generalizing start with
  | nil => exact ⟨[], rfl, .nil⟩
  | cons symbol symbols ih =>
    obtain ⟨here, read⟩ := List.forall_mem_cons.1 read
    obtain ⟨others, alike, stand⟩ := ih read (start + (fragmentOf symbol.2).size)
    refine ⟨(⟨start, start + (fragmentOf symbol.2).size⟩, symbol.2) :: others, ?_, ?_⟩
    · exact congrArg (symbol.2 :: ·) alike
    · exact .cons ⟨rfl, here⟩ stand

/-- The markup of a document that is accepted under some policy is accepted under each, and its tree
is the same but for where its nodes stand. -/
theorem parse_markup (parsed : Document.parse policy document = .ok nodes)
    (other : AttributePolicy) :
    ∃ again, Document.parse other (markup nodes) = .ok again ∧
      eraseSpans again = eraseSpans nodes := by
  obtain ⟨symbols, reads, derives⟩ := reads_of_parse parsed
  have whole : markup nodes = spelled (fragments symbols) [] := by
    rw [spelled, List.append_nil, source_of_derives derives]
  have cut : Cut (fragments symbols) [] := by
    have nothing : (scan document).rest = [] := by
      simpa [Fragments.unterminated?] using reads.terminated
    have original := (scan_cut document).2
    rw [nothing] at original
    apply cut_fragments reads.valid
    rwa [Fragments.placed, place_fragments]
  have scanned : scan (markup nodes) = ⟨fragments symbols, []⟩ := by
    rw [whole]
    exact scan_of_cut cut
  obtain ⟨others, alike, stand⟩ := stand_fragments (read_again reads.valid other) 0
  have again : Reads other (markup nodes) others := by
    constructor
    · rw [scanned]
      rfl
    · rw [scanned]
      exact stand
  obtain ⟨copy, derivesCopy, same⟩ := derives_elsewhere derives others alike
  refine ⟨copy, ?_, same⟩
  rw [parse_eq_assemble again]
  exact assemble_ok_iff.2 derivesCopy

/-- A document that only the lenient policy accepts: an attribute is given twice, a name is in upper
case, and quotes, backslashes and markers stand in each other. Its markup is accepted by the strict
policy. -/
theorem parse_markup_of_layers :
    ∃ nodes,
      Document.parse .lenient (Bytes.ofText ("<!--#IF expr=\"!$a = \\\"x'\\\\\\\"\" -->" ++
        "<!--#echo var=\"a\" VAR=\"b\\c\\\"\" default=\"\\$$d\" -->-->" ++
        "<!--#endif-->")) = .ok nodes ∧
      markup nodes = Bytes.ofText ("<!--#if expr=\"! $\x7ba\x7d == 'x\\'\\\\'\" -->" ++
        "<!--#echo var=\"b\\c\\\"\" default=\"\\$$\x7bd\x7d\" -->-->" ++
        "<!--#endif -->") ∧
      ∃ again, Document.parse .strict (markup nodes) = .ok again ∧
        eraseSpans again = eraseSpans nodes :=
  (ok_of_to_option (by decide +kernel)).imp fun nodes found =>
    ⟨found.1, found.2, parse_markup found.1 .strict⟩

end ServerIncludes.DocumentWriting
