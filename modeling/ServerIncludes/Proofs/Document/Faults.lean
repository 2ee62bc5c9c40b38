import ServerIncludes.Document.Assembly

/-! Which faults arise where. The octets of a tag, its attributes and its place among other tags each
have faults of their own, and of these only those of places tell where another tag starts. -/
namespace ServerIncludes.FaultSources

/-- Whatever a step fails with is of one kind. -/
def Reports (kind : ε → Prop) (result : Except ε α) : Prop :=
  ∀ error, result = .error error → kind error

variable {kind : ε → Prop}

theorem reports_ok (value : α) : Reports kind (.ok value) := nofun

theorem reports_error {error : ε} (isKind : kind error) :
    Reports kind (.error error : Except ε α) := by
  rintro _ ⟨⟩
  exact isKind

theorem reports_bind {first : Except ε α} {next : α → Except ε β} (reports : Reports kind first)
    (later : ∀ value, Reports kind (next value)) : Reports kind (first.bind next) := by
  cases first with
  | error error => exact reports_error (reports error rfl)
  | ok value => exact later value

theorem reports_map {first : Except ε α} (reports : Reports kind first) (change : α → β) :
    Reports kind (first.map change) := reports_bind reports fun _ => reports_ok _

theorem reports_map_error (result : Except ε' α) (report : ε' → ε)
    (isKind : ∀ error, kind (report error)) : Reports kind (result.mapError report) := by
  cases result with
  | error error => exact reports_error (isKind error)
  | ok value => exact reports_ok value

theorem reports_ite {test : Prop} [Decidable test] {first second : Except ε α}
    (yes : Reports kind first) (no : Reports kind second) :
    Reports kind (if test then first else second) := by
  split
  · exact yes
  · exact no

theorem reports_foldlM {step : σ → α → Except ε σ}
    (each : ∀ state item, Reports kind (step state item))
    (items : List α) (state : σ) : Reports kind (items.foldlM step state) := by
  induction items generalizing state with
  | nil => exact reports_ok state
  | cons item items ih => exact reports_bind (each state item) ih

/-- What fails with faults of one kind fails with faults of any wider one. -/
theorem reports_wider {wider : ε → Prop} {result : Except ε α} (reports : Reports kind result)
    (within : ∀ error, kind error → wider error) : Reports wider result :=
  fun error failed => within error (reports error failed)

/-! ## Tags by themselves -/

/-- Faults of the octets of a tag. -/
inductive SpellingFault : ParseFault → Prop where
  | notText : SpellingFault .notText
  | noName : SpellingFault .noName
  | malformed : SpellingFault (.malformedAttribute directive fault)

/-- Faults of the values of attributes, or of attributes that are not given. -/
inductive ValueFault : ParseFault → Prop where
  | missing : ValueFault (.missingAttribute directive name)
  | missingTarget : ValueFault (.missingTarget directive)
  | invalid : ValueFault (.invalidValue directive name value)
  | conflicting : ValueFault (.conflictingTargets directive)
  | marker : ValueFault (.malformedMarker directive fault)
  | condition : ValueFault (.malformedCondition directive column fault)
  | pattern : ValueFault (.invalidPattern directive source)

/-- Faults of a tag that it has wherever it stands. -/
inductive OwnFault : ParseFault → Prop where
  | spelling (own : SpellingFault fault) : OwnFault fault
  | unknown : OwnFault (.unknownAttribute directive name)
  | duplicate : OwnFault (.duplicateAttribute directive name)
  | value (own : ValueFault fault) : OwnFault fault

theorem reports_of_body (body : Bytes) : Reports SpellingFault (Tag.ofBody body) := by
  unfold Tag.ofBody
  split
  · exact reports_error .notText
  · split
    · exact reports_error .noName
    · exact reports_error .malformed
    · exact reports_ok _

variable (attributes : AcceptedAttributes)

theorem reports_require (name : String) : Reports ValueFault (attributes.require name) := by
  unfold AcceptedAttributes.require
  split
  · exact reports_ok _
  · exact reports_error .missing

theorem reports_template (value : String) : Reports ValueFault (attributes.template value) :=
  reports_map_error _ _ fun _ => .marker

theorem reports_template? (name : String) : Reports ValueFault (attributes.template? name) := by
  unfold AcceptedAttributes.template?
  split
  · exact reports_ok _
  · exact reports_map (reports_template attributes _) some

theorem reports_named? (name : String) (ofName? : String → Option α) :
    Reports ValueFault (attributes.named? name ofName?) := by
  unfold AcceptedAttributes.named?
  split
  · exact reports_ok _
  · split
    · exact reports_ok _
    · exact reports_error .invalid

theorem reports_target : Reports ValueFault attributes.target := by
  unfold AcceptedAttributes.target
  split
  · exact reports_map (reports_template attributes _) _
  · exact reports_map (reports_template attributes _) _
  · exact reports_error .conflicting
  · exact reports_error .missingTarget

theorem reports_condition : Reports ValueFault attributes.condition :=
  reports_bind (reports_require attributes "expr") fun text =>
    reports_map_error _ _ fun error => by
      cases error with
      | malformed column fault => exact .condition
      | invalidPattern source => exact .pattern

/-- A directive fails for the values of its attributes only. -/
theorem reports_of_attributes : Reports ValueFault (Directive.ofAttributes attributes) := by
  have branch : ∀ build : Condition → Directive,
      Reports ValueFault (attributes.condition >>= fun condition => .ok (build condition)) :=
    fun build => reports_bind (reports_condition attributes) fun _ => reports_ok _
  have file : ∀ build : Target Template → Directive,
      Reports ValueFault (attributes.target >>= fun target => .ok (build target)) :=
    fun build => reports_bind (reports_target attributes) fun _ => reports_ok _
  refine reports_ite (branch .startIf) ?_
  refine reports_ite (branch .elif) ?_
  refine reports_ite (reports_ok Directive.otherwise) ?_
  refine reports_ite (reports_ok Directive.endIf) ?_
  refine reports_ite (reports_bind (reports_require _ _) fun _ => reports_ok _) ?_
  refine reports_ite (reports_ok Directive.endBlock) ?_
  refine reports_ite ?echo ?_
  case echo =>
    refine reports_bind (reports_require _ _) fun variableName => ?_
    refine reports_bind (reports_named? _ _ _) fun encoding => ?_
    exact reports_bind (reports_template? _ _) fun default => reports_ok _
  refine reports_ite ?assignment ?_
  case assignment =>
    refine reports_bind (reports_require _ _) fun variableName => ?_
    refine reports_bind (reports_require _ _) fun value => ?_
    exact reports_bind (reports_template _ _) fun template => reports_ok _
  refine reports_ite ?inclusion ?_
  case inclusion =>
    refine reports_bind (reports_target _) fun target => ?_
    exact reports_bind (reports_template? _ _) fun onError => reports_ok _
  refine reports_ite ?configuration ?_
  case configuration =>
    refine reports_bind (reports_template? _ _) fun errorMessage => ?_
    refine reports_bind (reports_template? _ _) fun missingMessage => ?_
    refine reports_bind (reports_named? _ _ _) fun sizeFormat => ?_
    exact reports_bind (reports_named? _ _ _) fun timeFormat => reports_ok _
  refine reports_ite (file (.leaf ∘ .lastModified)) ?_
  refine reports_ite (file (.leaf ∘ .fileSize)) ?_
  exact reports_ite (reports_ok _) (reports_ite (reports_ok _) (reports_ok _))

theorem reports_accept (policy : AttributePolicy) (directive : String) (allowed : List String)
    (items : List Attribute) (item : Attribute) :
    Reports OwnFault (AcceptedAttributes.accept policy directive allowed items item) := by
  refine reports_ite ?_ (reports_ite (reports_error .duplicate) (reports_ok _))
  cases policy with
  | strict => exact reports_error .unknown
  | lenient => exact reports_ok _

theorem reports_of_tag (policy : AttributePolicy) (tag : Tag) :
    Reports OwnFault (Directive.ofTag policy tag) := by
  have read : ∀ attributes, Reports OwnFault (Directive.ofAttributes attributes) :=
    fun attributes => reports_wider (reports_of_attributes attributes) fun _ => .value
  unfold Directive.ofTag
  split
  · exact read _
  · rename_i allowed taken
    exact reports_bind (reports_map (reports_foldlM (reports_accept policy tag.name allowed) _ _) _) read

/-! ## The places of tags -/

/-- Faults of a directive that the innermost frame of an assembly does not let stand. -/
inductive PlaceFault (assembly : Assembly) : ParseFault → Prop where
  | unmatched (closed : assembly.frames = []) :
    PlaceFault assembly (.unmatched directive expected)
  | mismatched (innermost : assembly.frames.head? = some frame) :
    PlaceFault assembly (.mismatched directive frame.kind frame.opener.start)
  | afterElse (innermost : assembly.frames.head? = some frame) :
    PlaceFault assembly (.afterElse directive frame.opener.start)

variable (assembly : Assembly)

theorem place_fault_misplaced (directive : String) (expected : FrameKind) :
    PlaceFault assembly (assembly.misplaced directive expected) := by
  unfold Assembly.misplaced
  split
  · rename_i closed
    exact .unmatched closed
  · rename_i frame outer innermost
    exact .mismatched (by rw [innermost, List.head?_cons])

theorem reports_check_branch (directive : String) :
    Reports (PlaceFault assembly) (assembly.checkBranch directive) := by
  unfold Assembly.checkBranch
  split
  · exact reports_ok _
  · rename_i opener condition body elifs last outer innermost
    have first : assembly.frames.head? =
        some (.conditional opener condition body elifs (some last)) := by
      rw [innermost, List.head?_cons]
    exact reports_error (.afterElse first)
  · exact reports_error (place_fault_misplaced assembly directive .conditional)

theorem reports_apply (span : Span) (directive : Directive) :
    Reports (PlaceFault assembly) (assembly.apply span directive) := by
  cases directive with
  | leaf content => exact reports_ok _
  | startIf condition => exact reports_ok _
  | startBlock name => exact reports_ok _
  | elif test =>
    refine reports_bind (reports_check_branch assembly "elif") fun _ => ?_
    split <;> exact reports_ok _
  | otherwise =>
    refine reports_bind (reports_check_branch assembly "else") fun _ => ?_
    split <;> exact reports_ok _
  | endIf =>
    simp only [Assembly.apply]
    split
    · exact reports_ok _
    · exact reports_error (place_fault_misplaced assembly "endif" .conditional)
  | endBlock =>
    simp only [Assembly.apply]
    split
    · exact reports_ok _
    · exact reports_error (place_fault_misplaced assembly "endblock" .block)

/-- A tag is refused for itself or for its place. -/
theorem reports_take_tag (policy : AttributePolicy) (span : Span) (body : Bytes) :
    Reports (fun fault => OwnFault fault ∨ PlaceFault assembly fault)
      (assembly.takeTag policy span body) := by
  have place : Reports (fun fault => OwnFault fault ∨ PlaceFault assembly fault)
      (assembly.checkBranch "elif") :=
    reports_wider (reports_check_branch assembly "elif") fun _ => .inr
  refine reports_bind (reports_wider (reports_of_body body) fun _ own => .inl (.spelling own)) ?_
  intro tag
  have directive : Reports (fun fault => OwnFault fault ∨ PlaceFault assembly fault)
      ((Directive.ofTag policy tag).bind fun directive => assembly.apply span directive) :=
    reports_bind (reports_wider (reports_of_tag policy tag) fun _ => .inl) fun directive =>
      reports_wider (reports_apply assembly span directive) fun _ => .inr
  by_cases branch : tag.name = "elif"
  · simp only [branch, if_true]
    exact reports_bind place fun _ => directive
  · simp only [branch, if_false]
    exact directive

end ServerIncludes.FaultSources
