import ServerIncludes.Proofs.Document.Attributes
import ServerIncludes.Proofs.Document.Nesting
import ServerIncludes.Proofs.Tag.Legibility
import ServerIncludes.Proofs.Tag.Spelling

/-! Directives as tags. A directive that was read from a tag holds attributes from which it is read
again, under either policy, whichever it was read under and however its tag was written. -/
namespace ServerIncludes.HeldAttributes

open ConditionWriting DirectiveAttributes Legibility Parts TagSpelling TagWriting TemplateWriting
open Nesting (spelling)

/-! ## Attributes that are held -/

/-- An attribute that is given or not. -/
def entry (name : String) (value : Option String) : List Attribute :=
  (value.map fun value => ⟨name, value⟩).toList

def targetEntry : Target Template → List Attribute
  | .virtual path => [⟨"virtual", path.write⟩]
  | .file path => [⟨"file", path.write⟩]

/-- A condition as the value of an attribute. -/
def conditionText (condition : Condition) : String := String.ofList (write '\'' condition)

def heldByLeaf : Leaf → List Attribute
  | .literal _ => []
  | .echo name encoding instead =>
    ⟨"var", name⟩ :: (entry "encoding" (encoding.map Encoding.name) ++
      entry "default" (instead.map Template.write))
  | .assign name value => [⟨"var", name⟩, ⟨"value", value.write⟩]
  | .inclusion target onError store stub =>
    targetEntry target ++ (entry "onerror" (onError.map Template.write) ++
      (entry "set" store ++ entry "stub" stub))
  | .configure errorMessage missingMessage sizeFormat timeFormat =>
    entry "errmsg" (errorMessage.map Template.write) ++
      (entry "echomsg" (missingMessage.map Template.write) ++
        (entry "sizefmt" (sizeFormat.map SizeFormat.name) ++ entry "timefmt" timeFormat))
  | .lastModified target => targetEntry target
  | .fileSize target => targetEntry target
  | .listVariables => []
  | .comment => []
  | .unknown _ => []

/-- The attributes that a directive holds, in the order in which it takes them. -/
def held : Directive → List Attribute
  | .startIf condition => [⟨"expr", conditionText condition⟩]
  | .elif condition => [⟨"expr", conditionText condition⟩]
  | .otherwise => []
  | .endIf => []
  | .startBlock name => [⟨"name", name⟩]
  | .endBlock => []
  | .leaf content => heldByLeaf content

/-- A directive with the attributes that it holds. -/
def heldBy (directive : Directive) : AcceptedAttributes := ⟨spelling directive, held directive⟩

section

variable (directive name : String)

@[simp] theorem get?_nil : AcceptedAttributes.get? ⟨directive, []⟩ name = none := rfl

@[simp] theorem get?_cons (item : Attribute) (items : List Attribute) :
    AcceptedAttributes.get? ⟨directive, item :: items⟩ name =
      if item.name = name then some item.value
      else AcceptedAttributes.get? ⟨directive, items⟩ name := by
  by_cases same : item.name = name <;> simp [AcceptedAttributes.get?, same]

@[simp] theorem get?_entry_append (other : String) (value : Option String)
    (items : List Attribute) :
    AcceptedAttributes.get? ⟨directive, entry other value ++ items⟩ name =
      if other = name then value.or (AcceptedAttributes.get? ⟨directive, items⟩ name)
      else AcceptedAttributes.get? ⟨directive, items⟩ name := by
  cases value <;> simp [entry]

@[simp] theorem get?_entry (other : String) (value : Option String) :
    AcceptedAttributes.get? ⟨directive, entry other value⟩ name =
      if other = name then value else none := by
  cases value <;> simp [entry]

end

/-! ## Values that are read from a tag -/

/-- Templates that can be given in a tag and are read back. -/
structure Givable (template : Template) : Prop where
  canonical : Canonical template.segments
  legible : Legible template.write.toList

variable {attributes : AcceptedAttributes}

theorem require_iff : attributes.require name = .ok value ↔ attributes.get? name = some value := by
  unfold AcceptedAttributes.require
  cases attributes.get? name <;> simp

section

variable (legible : ∀ item ∈ attributes.items, Legible item.value.toList)
include legible

theorem legible_of_get? (given : attributes.get? name = some value) : Legible value.toList := by
  obtain ⟨item, found, rfl⟩ := Option.map_eq_some_iff.1 given
  exact legible item (List.mem_of_find?_eq_some found)

theorem givable_of_get? (given : attributes.get? name = some value)
    (filled : attributes.template value = .ok template) : Givable template := by
  have parsed := ok_of_map_error filled
  exact ⟨canonical_of_parse parsed, legible_template (legible_of_get? legible given) parsed⟩

theorem givable_of_template? (read : attributes.template? name = .ok template?) :
    ∀ template ∈ template?, Givable template := by
  unfold AcceptedAttributes.template? at read
  split at read
  · cases read
    exact nofun
  · rename_i value given
    obtain ⟨template, filled, rfl⟩ := ok_of_map read
    rintro _ ⟨⟩
    exact givable_of_get? legible given filled

theorem givable_of_target (aimed : attributes.target = .ok target) : Givable target.path := by
  unfold AcceptedAttributes.target at aimed
  split at aimed
  · rename_i given _
    obtain ⟨path, filled, rfl⟩ := ok_of_map aimed
    exact givable_of_get? legible given filled
  · rename_i _ given
    obtain ⟨path, filled, rfl⟩ := ok_of_map aimed
    exact givable_of_get? legible given filled
  · cases aimed
  · cases aimed

theorem condition_of_ok (tested : attributes.condition = .ok condition) :
    Legible (conditionText condition).toList ∧
      Condition.parse (conditionText condition) = .ok condition := by
  obtain ⟨text, given, parsed⟩ := ok_of_bind tested
  have parsed := ok_of_map_error parsed
  refine ⟨?_, parse_write_of_parse (.inr rfl) parsed⟩
  rw [conditionText, String.toList_ofList]
  exact legible_condition (legible_of_get? legible (require_iff.1 given)) parsed

end

theorem given_of_named? {ofName? : String → Option α}
    (read : attributes.named? name ofName? = .ok found?) :
    ∀ found ∈ found?, ∃ text, attributes.get? name = some text ∧ ofName? text = some found := by
  unfold AcceptedAttributes.named? at read
  split at read
  · cases read
    exact nofun
  · rename_i text given
    split at read
    · rename_i found named
      cases read
      rintro _ ⟨⟩
      exact ⟨text, given, named⟩
    · cases read

/-! ## Values that are given in a tag -/

theorem template_write (attributes : AcceptedAttributes) (givable : Givable template) :
    attributes.template template.write = .ok template := by
  unfold AcceptedAttributes.template
  rw [parse_write_of_canonical givable.canonical]
  rfl

theorem template?_of_given (given : attributes.get? name = template?.map Template.write)
    (givable : ∀ template ∈ template?, Givable template) :
    attributes.template? name = .ok template? := by
  unfold AcceptedAttributes.template?
  rw [given]
  cases template? with
  | none => rfl
  | some template =>
    simp only [Option.map_some, template_write _ (givable template rfl)]
    rfl

theorem named?_of_given {ofName? : String → Option α} (nameOf : α → String)
    (given : attributes.get? name = found?.map nameOf)
    (named : ∀ found ∈ found?, ofName? (nameOf found) = some found) :
    attributes.named? name ofName? = .ok found? := by
  unfold AcceptedAttributes.named?
  rw [given]
  cases found? with
  | none => rfl
  | some found => simp [named found rfl]

theorem condition_of_given (given : attributes.get? "expr" = some (conditionText condition))
    (parsed : Condition.parse (conditionText condition) = .ok condition) :
    attributes.condition = .ok condition := by
  unfold AcceptedAttributes.condition
  rw [require_iff.2 given]
  simp only [bind, Except.bind, parsed]
  rfl

theorem target_of_entry (directive : String) (items : List Attribute)
    (givable : Givable target.path)
    (virtual : AcceptedAttributes.get? ⟨directive, items⟩ "virtual" = none)
    (file : AcceptedAttributes.get? ⟨directive, items⟩ "file" = none) :
    AcceptedAttributes.target ⟨directive, targetEntry target ++ items⟩ = .ok target := by
  cases target with
  | virtual path =>
    have isGivable : Givable path := givable
    simp [AcceptedAttributes.target, targetEntry, file, template_write _ isGivable, Except.map]
  | file path =>
    have isGivable : Givable path := givable
    simp [AcceptedAttributes.target, targetEntry, virtual, template_write _ isGivable, Except.map]

/-! ## Reading a directive again -/

theorem legible_entry (name : String) {value : Option String}
    (legible : ∀ text ∈ value, Legible text.toList) :
    ∀ item ∈ entry name value, Legible item.value.toList := by
  intro item member
  obtain ⟨text, given, rfl⟩ := Option.map_eq_some_iff.1 (Option.mem_toList.1 member)
  exact legible text given

theorem legible_templates (name : String) {template? : Option Template}
    (givable : ∀ template ∈ template?, Givable template) :
    ∀ item ∈ entry name (template?.map Template.write), Legible item.value.toList := by
  apply legible_entry
  intro text member
  obtain ⟨template, given, rfl⟩ := Option.map_eq_some_iff.1 member
  exact (givable template given).legible

theorem legible_target (givable : Givable target.path) :
    ∀ item ∈ targetEntry target, Legible item.value.toList := by
  cases target with
  | virtual path =>
    have isGivable : Givable path := givable
    simpa [targetEntry] using isGivable.legible
  | file path =>
    have isGivable : Givable path := givable
    simpa [targetEntry] using isGivable.legible

/-- Letters alone are legible. -/
theorem legible_letters {text : List Char} (letters : text.all Char.isLower = true) :
    Legible text := by
  rw [legible_iff_through]
  apply through_plain
  rintro c member rfl
  exact absurd (List.all_eq_true.1 letters _ member) (by decide)

/-- The values of a directive can be given in a tag. -/
theorem legible_held (legible : ∀ item ∈ attributes.items, Legible item.value.toList)
    (describes : Describes attributes directive) :
    ∀ item ∈ held directive, Legible item.value.toList := by
  cases describes with
  | startIf named tested => simpa [held] using (condition_of_ok legible tested).1
  | elif named tested => simpa [held] using (condition_of_ok legible tested).1
  | startBlock named given => simpa [held] using legible_of_get? legible (require_iff.1 given)
  | @echo name encoding instead named given encoded replaced =>
    have name := legible_of_get? legible (require_iff.1 given)
    have encodings : ∀ item ∈ entry "encoding" (encoding.map Encoding.name),
        Legible item.value.toList := by
      apply legible_entry
      intro text member
      obtain ⟨encoding, -, rfl⟩ := Option.map_eq_some_iff.1 member
      cases encoding <;> exact legible_letters (by decide)
    have templates := legible_templates "default" (givable_of_template? legible replaced)
    exact List.forall_mem_cons.2 ⟨name, List.forall_mem_append.2 ⟨encodings, templates⟩⟩
  | assign named given valued filled =>
    have name := legible_of_get? legible (require_iff.1 given)
    have value := (givable_of_get? legible (require_iff.1 valued) filled).legible
    simpa [held, heldByLeaf] using ⟨name, value⟩
  | inclusion named aimed handled =>
    have target := legible_target (givable_of_target legible aimed)
    have store : ∀ item ∈ entry "set" (attributes.get? "set"), Legible item.value.toList :=
      legible_entry _ fun text given => legible_of_get? legible given
    have stub : ∀ item ∈ entry "stub" (attributes.get? "stub"), Legible item.value.toList :=
      legible_entry _ fun text given => legible_of_get? legible given
    have onError := legible_templates "onerror" (givable_of_template? legible handled)
    simp only [held, heldByLeaf, List.forall_mem_append]
    exact ⟨target, onError, store, stub⟩
  | @configure errorMessage missingMessage sizeFormat timeFormat named failed missed sized timed =>
    have first := legible_templates "errmsg" (givable_of_template? legible failed)
    have second := legible_templates "echomsg" (givable_of_template? legible missed)
    have sizes : ∀ item ∈ entry "sizefmt" (sizeFormat.map SizeFormat.name),
        Legible item.value.toList := by
      apply legible_entry
      intro text member
      obtain ⟨format, -, rfl⟩ := Option.map_eq_some_iff.1 member
      cases format <;> exact legible_letters (by decide)
    have times : ∀ item ∈ entry "timefmt" timeFormat, Legible item.value.toList := by
      apply legible_entry
      intro text member
      obtain ⟨given, found, valid⟩ := given_of_named? timed text member
      split at valid
      · cases valid
        exact legible_of_get? legible found
      · cases valid
    simp only [held, heldByLeaf, List.forall_mem_append]
    exact ⟨first, second, sizes, times⟩
  | lastModified named aimed => exact legible_target (givable_of_target legible aimed)
  | fileSize named aimed => exact legible_target (givable_of_target legible aimed)
  | _ => exact nofun

theorem describes_inclusion {target : Target Template} {onError : Option Template}
    (aimed : Givable target.path) (handled : ∀ template ∈ onError, Givable template)
    (store stub : Option String) :
    Describes (heldBy (.leaf (.inclusion target onError store stub)))
      (.leaf (.inclusion target onError store stub)) := by
  have errors : (heldBy (.leaf (.inclusion target onError store stub))).get? "onerror" =
      onError.map Template.write := by
    cases target <;> simp [heldBy, held, heldByLeaf, targetEntry]
  have stored : (heldBy (.leaf (.inclusion target onError store stub))).get? "set" = store := by
    cases target <;> simp [heldBy, held, heldByLeaf, targetEntry]
  have stubbed : (heldBy (.leaf (.inclusion target onError store stub))).get? "stub" = stub := by
    cases target <;> simp [heldBy, held, heldByLeaf, targetEntry]
  have again : (heldBy (.leaf (.inclusion target onError store stub))).target = .ok target :=
    target_of_entry "include" _ aimed (by simp) (by simp)
  have described := Describes.inclusion rfl again (template?_of_given errors handled)
  rwa [stored, stubbed] at described

/-- What a directive is made of is given by the attributes that it holds. -/
theorem describes_held (legible : ∀ item ∈ attributes.items, Legible item.value.toList)
    (describes : Describes attributes directive) : Describes (heldBy directive) directive := by
  cases describes with
  | startIf named tested =>
    have given := (condition_of_ok legible tested).2
    exact .startIf rfl (condition_of_given (by simp [heldBy, held]) given)
  | elif named tested =>
    have given := (condition_of_ok legible tested).2
    exact .elif rfl (condition_of_given (by simp [heldBy, held]) given)
  | otherwise named => exact .otherwise rfl
  | endIf named => exact .endIf rfl
  | startBlock named given => exact .startBlock rfl (require_iff.2 (by simp [heldBy, held]))
  | endBlock named => exact .endBlock rfl
  | echo named given encoded replaced =>
    refine .echo rfl (require_iff.2 ?_) ?_ ?_
    · simp [heldBy, held, heldByLeaf]
    · apply named?_of_given Encoding.name
      · simp [heldBy, held, heldByLeaf]
      · rintro encoding -
        cases encoding <;> rfl
    · apply template?_of_given
      · simp [heldBy, held, heldByLeaf]
      · exact givable_of_template? legible replaced
  | assign named given valued filled =>
    have givable := givable_of_get? legible (require_iff.1 valued) filled
    refine .assign rfl (require_iff.2 ?_) (require_iff.2 ?_) (template_write _ givable)
    · simp [heldBy, held, heldByLeaf]
    · simp [heldBy, held, heldByLeaf]
  | inclusion named aimed handled =>
    have target := givable_of_target legible aimed
    exact describes_inclusion target (givable_of_template? legible handled) _ _
  | configure named failed missed sized timed =>
    refine .configure rfl ?_ ?_ ?_ ?_
    · apply template?_of_given
      · simp [heldBy, held, heldByLeaf]
      · exact givable_of_template? legible failed
    · apply template?_of_given
      · simp [heldBy, held, heldByLeaf]
      · exact givable_of_template? legible missed
    · apply named?_of_given SizeFormat.name
      · simp [heldBy, held, heldByLeaf]
      · rintro format -
        cases format <;> rfl
    · apply named?_of_given id
      · simp [heldBy, held, heldByLeaf]
      · intro text member
        obtain ⟨given, _, valid⟩ := given_of_named? timed text member
        split at valid
        · rename_i isValid
          cases valid
          exact if_pos isValid
        · cases valid
  | @lastModified target named aimed =>
    have givable := givable_of_target legible aimed
    have again := target_of_entry "flastmod" [] givable rfl rfl
    rw [List.append_nil] at again
    exact .lastModified rfl again
  | @fileSize target named aimed =>
    have givable := givable_of_target legible aimed
    have again := target_of_entry "fsize" [] givable rfl rfl
    rw [List.append_nil] at again
    exact .fileSize rfl again
  | listVariables named => exact .listVariables rfl
  | comment named => exact .comment rfl
  | unknown other => exact .unknown other

/-! ## The tag of a directive -/

/-- A directive as a tag. -/
def tagOf (directive : Directive) : Tag := ⟨spelling directive, held directive⟩

theorem spelling_of_describes (describes : Describes attributes directive) :
    spelling directive = attributes.directive := by
  cases describes with
  | unknown other => rfl
  | _ => exact Eq.symm ‹_›

theorem allowed_names (taken : Directive.allowed? name = some allowed) :
    allowed.Nodup ∧ ∀ other ∈ allowed, IsName other := by
  unfold Directive.allowed? at taken
  iterate 8
    rcases of_ite taken with ⟨_, ⟨⟩⟩ | ⟨_, taken⟩
    · decide
  cases taken

theorem names_entry (name : String) (value : Option String) :
    ((entry name value).map (·.name)).Sublist [name] := by
  cases value with
  | none => exact List.nil_sublist _
  | some value => exact List.Sublist.refl _

theorem names_target (target : Target Template) :
    ((targetEntry target).map (·.name)).Sublist ["virtual", "file"] := by
  cases target with
  | virtual path => exact (List.nil_sublist _).cons_cons "virtual"
  | file path => exact .cons _ (List.Sublist.refl _)

/-- The attributes of a directive are among those that it takes, and in that order. -/
theorem names_held (taken : Directive.allowed? (spelling directive) = some allowed) :
    ((held directive).map (·.name)).Sublist allowed := by
  cases directive with
  | startIf condition =>
    cases taken
    exact List.Sublist.refl _
  | elif condition =>
    cases taken
    exact List.Sublist.refl _
  | startBlock name =>
    cases taken
    exact List.Sublist.refl _
  | leaf content =>
    cases content with
    | echo name encoding instead =>
      cases taken
      simp only [held, heldByLeaf, List.map_cons, List.map_append]
      exact ((names_entry "encoding" _).append (names_entry "default" _)).cons_cons "var"
    | assign name value =>
      cases taken
      exact List.Sublist.refl _
    | inclusion target onError store stub =>
      cases taken
      simp only [held, heldByLeaf, List.map_append]
      have stored := (names_entry "set" store).append (names_entry "stub" stub)
      have handled := (names_entry "onerror" (onError.map Template.write)).append stored
      have all := (names_target target).append handled
      exact all.trans (List.sublist_append_left _ ["wait"])
    | configure errorMessage missingMessage sizeFormat timeFormat =>
      cases taken
      simp only [held, heldByLeaf, List.map_append]
      have sizes := names_entry "sizefmt" (sizeFormat.map SizeFormat.name)
      have formats := sizes.append (names_entry "timefmt" timeFormat)
      exact (names_entry "errmsg" _).append ((names_entry "echomsg" _).append formats)
    | lastModified target =>
      cases taken
      exact names_target target
    | fileSize target =>
      cases taken
      exact names_target target
    | _ => exact List.nil_sublist _
  | _ => exact List.nil_sublist _

/-- A directive that takes any attributes holds none. -/
theorem held_of_any (taken : Directive.allowed? (spelling directive) = none) :
    held directive = [] := by
  cases directive with
  | leaf content =>
    cases content with
    | literal bytes => rfl
    | listVariables => rfl
    | comment => rfl
    | unknown name => rfl
    | _ => cases taken
  | otherwise => rfl
  | endIf => rfl
  | endBlock => rfl
  | _ => cases taken

theorem name_of_allowed (taken : Directive.allowed? (spelling directive) = some allowed)
    (member : item ∈ held directive) : item.name ∈ allowed :=
  (names_held taken).subset (List.mem_map_of_mem member)

theorem names_of_held (member : item ∈ held directive) : IsName item.name := by
  cases taken : Directive.allowed? (spelling directive) with
  | none =>
    rw [held_of_any taken] at member
    cases member
  | some allowed => exact (allowed_names taken).2 _ (name_of_allowed taken member)

/-- Neither policy finds anything to refuse or to leave out in what a directive holds. -/
theorem of_tag_held (policy : AttributePolicy)
    (describes : Describes (heldBy directive) directive) :
    Directive.ofTag policy (tagOf directive) = .ok directive := by
  have whole := of_attributes_of_describes describes
  unfold Directive.ofTag
  split
  · rename_i taken
    have none : held directive = [] := held_of_any taken
    rwa [heldBy, none] at whole
  · rename_i allowed taken
    have distinct : ((held directive).map (·.name)).Nodup :=
      (names_held taken).nodup (allowed_names taken).1
    have folded := fold_accept policy (spelling directive) []
      (fun item member => name_of_allowed taken member) distinct
    have accepted : AcceptedAttributes.ofTag policy (tagOf directive) allowed =
        .ok (heldBy directive) := congrArg (Except.map _) folded
    rw [accepted]
    exact whole

/-- A directive that was read from a tag can be written as a tag and is read from it again. -/
theorem read_held (found : Tag.ofBody body = .ok tag)
    (read : Directive.ofTag policy tag = .ok directive) :
    Writable (tagOf directive) ∧ (∀ bytes, directive ≠ .leaf (.literal bytes)) ∧
      ∀ other, Directive.ofTag other (tagOf directive) = .ok directive := by
  obtain ⟨isName, legible⟩ := legible_of_body found
  obtain ⟨attributes, same, within, describes⟩ := describes_of_tag read
  have values : ∀ item ∈ attributes.items, Legible item.value.toList :=
    fun item member => legible item (within item member)
  refine ⟨⟨?_, ?_, legible_held values describes⟩, not_literal_of_describes describes, ?_⟩
  · rw [tagOf, spelling_of_describes describes, same]
    exact isName
  · exact fun item member => names_of_held member
  · exact fun other => of_tag_held other (describes_held values describes)

end ServerIncludes.HeldAttributes
