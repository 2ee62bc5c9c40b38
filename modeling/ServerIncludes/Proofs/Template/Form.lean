import Mathlib.Data.List.Chain
import ServerIncludes.Proofs.Template.Writing

/-! The templates that reading can yield. They are told by what each of their segments is like and by
what stands next to what, without regard to how a value is read, and they are just those that are
read back from what they are written as. -/
namespace ServerIncludes.TemplateForm

open TemplateWriting

/-- A template in the form of what is read: every text holds something, texts are apart from each
other, names are such as braces can hold, and no text leaves a backslash right before a marker. -/
structure Tidy (template : Template) : Prop where
  filled : ∀ content, .text content ∈ template.segments → content ≠ ""
  apart : ∀ before first second after,
    template.segments ≠ before ++ .text first :: .text second :: after
  named : ∀ name, .marker name ∈ template.segments → name ≠ "" ∧ '}' ∉ name.toList
  unescaped : ∀ before content name after,
    template.segments = before ++ .text content :: .marker name :: after →
      content.toList.getLast? ≠ some '\\'

/-- A segment that can be written. -/
def Writable : Segment → Prop
  | .text content => content ≠ ""
  | .marker name => name ≠ "" ∧ '}' ∉ name.toList

/-- Segments of which the second can be written right behind the first. -/
def MayPrecede : Segment → Segment → Prop
  | .text content, next => MayFollow content (some next)
  | .marker _, _ => True

theorem may_follow_iff (content : String) (next : Option Segment) :
    MayFollow content next ↔ ∀ segment ∈ next, MayPrecede (.text content) segment := by
  cases next with
  | none => simp [MayFollow]
  | some segment => simp [MayPrecede]

/-- Canonical segments are those that can be written, each of them behind the one before it. -/
theorem canonical_iff (segments : List Segment) :
    Canonical segments ↔
      (∀ segment ∈ segments, Writable segment) ∧ segments.IsChain MayPrecede := by
  induction segments with
  | nil => simp [Canonical]
  | cons segment rest ih =>
    rw [List.forall_mem_cons, List.isChain_cons]
    cases segment with
    | text content =>
      rw [Canonical, ih, may_follow_iff, Writable]
      constructor
      · rintro ⟨filled, follows, writable, chain⟩
        exact ⟨⟨filled, writable⟩, follows, chain⟩
      · rintro ⟨⟨filled, writable⟩, follows, chain⟩
        exact ⟨filled, follows, writable, chain⟩
    | marker name =>
      rw [Canonical, ih, Writable]
      constructor
      · rintro ⟨filled, closes, writable, chain⟩
        exact ⟨⟨⟨filled, closes⟩, writable⟩, fun _ _ => trivial, chain⟩
      · rintro ⟨⟨⟨filled, closes⟩, writable⟩, -, chain⟩
        exact ⟨filled, closes, writable, chain⟩

theorem tidy_iff_canonical (template : Template) :
    Tidy template ↔ Canonical template.segments := by
  rw [canonical_iff, List.isChain_iff_forall_rel_of_append_cons_cons]
  constructor
  · intro tidy
    constructor
    · intro segment member
      cases segment with
      | text content => exact tidy.filled content member
      | marker name => exact tidy.named name member
    · intro first second before after split
      cases first with
      | marker name => trivial
      | text content =>
        cases second with
        | text other => exact tidy.apart before content other after split
        | marker name => exact tidy.unescaped before content name after split
  · rintro ⟨writable, precedes⟩
    exact
      { filled := fun content member => writable _ member
        apart := fun before first second after split => precedes split
        named := fun name member => writable _ member
        unescaped := fun before content name after split => precedes split }

/-- Whatever characters a text holds, standing alone it is tidy. -/
theorem tidy_literal (text : String) : Tidy (Template.literal text) := by
  rw [tidy_iff_canonical]
  exact canonical_pushText trivial trivial

/-- Reading yields exactly the tidy templates, and exactly these are read back from what they are
written as; among them are all texts without markers. -/
theorem parse_yields_tidy (template : Template) (text : String) :
    ((∃ value, Template.parse value = .ok template) ↔ Tidy template) ∧
    (Template.parse template.write = .ok template ↔ Tidy template) ∧
    Template.parse (Template.literal text).write = .ok (Template.literal text) := by
  have of_parse : ∀ value, Template.parse value = .ok template → Tidy template :=
    fun value parsed => (tidy_iff_canonical template).2 (canonical_of_parse parsed)
  have of_tidy : ∀ {template : Template}, Tidy template →
      Template.parse template.write = .ok template :=
    fun {template} tidy => parse_write_of_canonical ((tidy_iff_canonical template).1 tidy)
  refine ⟨⟨?_, ?_⟩, ⟨of_parse template.write, of_tidy⟩, of_tidy (tidy_literal text)⟩
  · rintro ⟨value, parsed⟩
    exact of_parse value parsed
  · intro tidy
    exact ⟨template.write, of_tidy tidy⟩

end ServerIncludes.TemplateForm
