import ServerIncludes.Proofs.Document.Faults

/-! The strict policy against the lenient one. Both readers of a document go through the same states
until the strict one stops at an attribute that the lenient one leaves out or replaces, and what it
stops with is nothing that the lenient one ever reports. -/
namespace ServerIncludes.AttributePolicies

open FaultSources

/-! ## Two runs side by side -/

/-- What a strict run yields against a lenient one: the same, or an error of a kind that only strict
runs have. -/
structure Refines (own : ε → Prop) (strict lenient : Except ε α) : Prop where
  agrees : strict = lenient ∨ ∃ error, strict = .error error ∧ own error
  free : ∀ error, lenient = .error error → ¬ own error

variable {own : ε → Prop}

theorem refines_ok (value : α) : Refines own (.ok value) (.ok value) := ⟨.inl rfl, nofun⟩

theorem refines_error {error : ε} (other : ¬ own error) :
    Refines own (.error error : Except ε α) (.error error) := by
  refine ⟨.inl rfl, fun reported same => ?_⟩
  cases same
  exact other

theorem refines_refused {error : ε} (isOwn : own error) (value : α) :
    Refines own (.error error) (.ok value) := ⟨.inr ⟨error, rfl, isOwn⟩, nofun⟩

theorem refines_bind {strict lenient : Except ε α} {next other : α → Except ε β}
    (first : Refines own strict lenient) (later : ∀ value, Refines own (next value) (other value)) :
    Refines own (strict.bind next) (lenient.bind other) := by
  rcases first.agrees with rfl | ⟨error, rfl, isOwn⟩
  · cases strict with
    | error error => exact refines_error (first.free error rfl)
    | ok value => exact later value
  · refine ⟨.inr ⟨error, rfl, isOwn⟩, fun reported same => ?_⟩
    cases lenient with
    | error error =>
      cases same
      exact first.free _ rfl
    | ok value => exact (later value).free reported same

theorem refines_map {strict lenient : Except ε α} (first : Refines own strict lenient)
    (change : α → β) : Refines own (strict.map change) (lenient.map change) :=
  refines_bind first fun value => refines_ok (change value)

theorem refines_foldlM {step other : σ → α → Except ε σ}
    (each : ∀ state item, Refines own (step state item) (other state item)) (items : List α)
    (state : σ) : Refines own (items.foldlM step state) (items.foldlM other state) := by
  induction items generalizing state with
  | nil => exact refines_ok state
  | cons item items ih => exact refines_bind (each state item) ih

/-- Errors of one kind reported as those of another. -/
theorem refines_map_error {wider : ε' → Prop} {strict lenient : Except ε α}
    (first : Refines own strict lenient) (report : ε → ε')
    (same : ∀ error, wider (report error) ↔ own error) :
    Refines wider (strict.mapError report) (lenient.mapError report) := by
  rcases first.agrees with rfl | ⟨error, rfl, isOwn⟩
  · cases strict with
    | error error =>
      exact refines_error fun isWider => first.free error rfl ((same error).1 isWider)
    | ok value => exact refines_ok value
  · refine ⟨.inr ⟨report error, rfl, (same error).2 isOwn⟩, ?_⟩
    cases lenient with
    | error error =>
      rintro _ ⟨⟩ isWider
      exact first.free error rfl ((same error).1 isWider)
    | ok value => exact nofun

/-! ## What the policy decides -/

/-- Faults of attributes that the lenient policy leaves out or replaces. -/
inductive PolicyFault : ParseFault → Prop where
  | unknown : PolicyFault (.unknownAttribute directive name)
  | duplicate : PolicyFault (.duplicateAttribute directive name)

/-- A policy decides about a single attribute; what both accept they keep alike. -/
theorem refines_accept (directive : String) (allowed : List String) (items : List Attribute)
    (item : Attribute) :
    Refines PolicyFault (AcceptedAttributes.accept .strict directive allowed items item)
      (AcceptedAttributes.accept .lenient directive allowed items item) := by
  by_cases taken : item.name ∈ allowed
  · by_cases held : items.any fun held => held.name == item.name
    · simpa [AcceptedAttributes.accept, taken, held] using refines_refused .duplicate _
    · simpa [AcceptedAttributes.accept, taken, held] using refines_ok _
  · simpa [AcceptedAttributes.accept, taken] using refines_refused .unknown _

theorem refines_attributes (tag : Tag) (allowed : List String) :
    Refines PolicyFault (AcceptedAttributes.ofTag .strict tag allowed)
      (AcceptedAttributes.ofTag .lenient tag allowed) :=
  refines_map (refines_foldlM (refines_accept tag.name allowed) tag.attributes []) _

/-! ## What no policy decides -/

/-- A step that does not depend on the policy reports none of its faults. -/
abbrev Indifferent (result : Except ParseFault α) : Prop := Refines PolicyFault result result

theorem indifferent_of_reports {kind : ParseFault → Prop} {result : Except ParseFault α}
    (reports : Reports kind result) (apart : ∀ fault, kind fault → ¬ PolicyFault fault) :
    Indifferent result :=
  ⟨.inl rfl, fun fault failed => apart fault (reports fault failed)⟩

/-- What a directive with its attributes stands for does not depend on the policy. -/
theorem indifferent_of_attributes (attributes : AcceptedAttributes) :
    Indifferent (Directive.ofAttributes attributes) :=
  indifferent_of_reports (reports_of_attributes attributes) fun fault own => by
    cases own <;> exact nofun

theorem indifferent_of_body (body : Bytes) : Indifferent (Tag.ofBody body) :=
  indifferent_of_reports (reports_of_body body) fun fault own => by
    cases own <;> exact nofun

theorem not_policy_of_place {assembly : Assembly} (own : PlaceFault assembly fault) :
    ¬ PolicyFault fault := by
  cases own <;> exact nofun

theorem indifferent_check_branch (assembly : Assembly) (directive : String) :
    Indifferent (assembly.checkBranch directive) :=
  indifferent_of_reports (reports_check_branch assembly directive) fun _ => not_policy_of_place

/-- A directive that cannot stand where it does is refused for its place. -/
theorem indifferent_apply (assembly : Assembly) (span : Span) (directive : Directive) :
    Indifferent (assembly.apply span directive) :=
  indifferent_of_reports (reports_apply assembly span directive) fun _ => not_policy_of_place

/-! ## Documents -/

theorem refines_of_tag (tag : Tag) :
    Refines PolicyFault (Directive.ofTag .strict tag) (Directive.ofTag .lenient tag) := by
  unfold Directive.ofTag
  split
  · exact indifferent_of_attributes _
  · exact refines_bind (refines_attributes tag _) indifferent_of_attributes

/-- Wherever a tag stands, the place of an `elif` is checked by both before its attributes are, and
the place of every other directive after them. -/
theorem refines_take_tag (assembly : Assembly) (span : Span) (body : Bytes) :
    Refines PolicyFault (assembly.takeTag .strict span body)
      (assembly.takeTag .lenient span body) := by
  refine refines_bind (indifferent_of_body body) fun tag => ?_
  have directive := refines_bind (refines_of_tag tag) (indifferent_apply assembly span)
  by_cases branch : tag.name = "elif"
  · simp only [branch, if_true]
    exact refines_bind (indifferent_check_branch assembly "elif") fun _ => directive
  · simp only [branch, if_false]
    exact directive

theorem refines_take (assembly : Assembly) (placed : Span × Fragment) :
    Refines (PolicyFault ·.fault) (assembly.take .strict placed)
      (assembly.take .lenient placed) := by
  obtain ⟨span, fragment⟩ := placed
  cases fragment with
  | literal bytes => exact refines_ok _
  | tag body => exact refines_map_error (refines_take_tag assembly span body) _ fun _ => .rfl

theorem refines_parse (document : Bytes) :
    Refines (PolicyFault ·.fault) (Document.parse .strict document)
      (Document.parse .lenient document) := by
  refine refines_bind (refines_foldlM refines_take _ _) fun assembly => ?_
  split
  · exact refines_error nofun
  · obtain ⟨root, frames⟩ := assembly
    cases frames with
    | nil => exact refines_ok _
    | cons frame outer => exact refines_error nofun

/-- The strict reader yields what the lenient one yields, tree or error, or else it stops at an
attribute that is not taken or given twice; the lenient reader never does. -/
theorem parse_strict_refines (document : Bytes) :
    (Document.parse .strict document = Document.parse .lenient document ∨
      ∃ offset directive name,
        Document.parse .strict document = .error ⟨offset, .unknownAttribute directive name⟩ ∨
        Document.parse .strict document = .error ⟨offset, .duplicateAttribute directive name⟩) ∧
    ∀ offset directive name,
      Document.parse .lenient document ≠ .error ⟨offset, .unknownAttribute directive name⟩ ∧
      Document.parse .lenient document ≠ .error ⟨offset, .duplicateAttribute directive name⟩ := by
  obtain ⟨agrees, free⟩ := refines_parse document
  refine ⟨agrees.imp_right ?_, fun offset directive name => ⟨?_, ?_⟩⟩
  · rintro ⟨⟨offset, fault⟩, stopped, isOwn⟩
    cases isOwn with
    | unknown => exact ⟨offset, _, _, .inl stopped⟩
    | duplicate => exact ⟨offset, _, _, .inr stopped⟩
  · exact fun stopped => free _ stopped .unknown
  · exact fun stopped => free _ stopped .duplicate

/-- An attribute that is given twice is a fault for the strict reader only. -/
example :
    (Document.parse .lenient (Bytes.ofText "<!--#echo var=\"a\" var=\"b\" -->")).isOk = true ∧
      (Document.parse .strict (Bytes.ofText "<!--#echo var=\"a\" var=\"b\" -->")).isOk = false := by
  decide +kernel

end ServerIncludes.AttributePolicies
