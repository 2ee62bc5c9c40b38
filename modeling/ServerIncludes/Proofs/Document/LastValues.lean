import Mathlib.Data.List.Nodup
import ServerIncludes.Proofs.Document.Writing
import ServerIncludes.Proofs.Tag.Spelling

/-! Of the attributes of a tag, the values count that are given last under names that its directive
takes. Neither where they stand in the tag nor what else is given there changes what the tag does to
the tree that is being assembled, and no more does the case of its names. -/
namespace ServerIncludes.LastValues

open AcceptedAttributes (accept put)
open DirectiveAttributes DocumentWriting TagSpelling TagWriting
open Tag (isAttributeChar lower)

/-! ## Values that count -/

/-- Whether a directive takes an attribute of a name; some take any. -/
def takes (directive name : String) : Bool :=
  (Directive.allowed? directive).all fun allowed => name ∈ allowed

/-- The value that is given first under a name. -/
def firstValue? (items : List Attribute) (name : String) : Option String :=
  (items.find? fun item => item.name == name).map (·.value)

/-- The value that is given last under a name. -/
def lastValue? (items : List Attribute) (name : String) : Option String :=
  firstValue? items.reverse name

/-- Of attributes that are alike only the last one. -/
def lastOnly : List Attribute → List Attribute
  | [] => []
  | item :: rest =>
    if rest.any fun later => later.name == item.name then lastOnly rest else item :: lastOnly rest

variable {items given : List Attribute}

theorem firstValue_cons (item : Attribute) (items : List Attribute) (name : String) :
    firstValue? (item :: items) name =
      if item.name = name then some item.value else firstValue? items name := by
  by_cases same : item.name = name <;> simp [firstValue?, same]

theorem lastValue_cons (item : Attribute) (items : List Attribute) (name : String) :
    lastValue? (item :: items) name =
      (lastValue? items name).or (if item.name = name then some item.value else none) := by
  rw [lastValue?, lastValue?, firstValue?, firstValue?, List.reverse_cons, List.find?_append,
    Option.map_or]
  by_cases same : item.name = name <;> simp [same]

/-- Where no two attributes are alike, a value is given under a name or it is not. -/
theorem firstValue_iff (distinct : (items.map (·.name)).Nodup) :
    firstValue? items name = some value ↔ ⟨name, value⟩ ∈ items := by
  induction items with
  | nil => simp [firstValue?]
  | cons item items ih =>
    rw [List.map_cons, List.nodup_cons] at distinct
    obtain ⟨fresh, distinct⟩ := distinct
    rw [firstValue_cons, List.mem_cons]
    by_cases same : item.name = name
    · rw [if_pos same]
      have absent : (⟨name, value⟩ : Attribute) ∉ items := by
        intro member
        rw [same] at fresh
        exact fresh (List.mem_map_of_mem member)
      obtain ⟨itemName, itemValue⟩ := item
      simp only at same
      simp [absent, same, eq_comm]
    · rw [if_neg same, ih distinct]
      refine ⟨.inr, fun member => member.resolve_left ?_⟩
      rintro rfl
      exact same rfl

theorem lastValue_iff (distinct : (items.map (·.name)).Nodup) :
    lastValue? items name = some value ↔ ⟨name, value⟩ ∈ items := by
  rw [lastValue?, firstValue_iff (by rwa [List.map_reverse, List.nodup_reverse]),
    List.mem_reverse]

theorem lastValue_none_iff : lastValue? items name = none ↔ ∀ item ∈ items, item.name ≠ name := by
  simp [lastValue?, firstValue?]

/-- Attributes of which no two are alike may stand in any order. -/
theorem lastValue_perm (distinct : (items.map (·.name)).Nodup) (same : given.Perm items) :
    lastValue? given name = lastValue? items name := by
  refine Option.ext fun value => ?_
  rw [lastValue_iff distinct, lastValue_iff ((same.map _).nodup_iff.2 distinct), same.mem_iff]

theorem firstValue_perm (distinct : (items.map (·.name)).Nodup) (same : given.Perm items) :
    firstValue? given name = firstValue? items name := by
  refine Option.ext fun value => ?_
  rw [firstValue_iff distinct, firstValue_iff ((same.map _).nodup_iff.2 distinct), same.mem_iff]

theorem mem_of_last_only (member : item ∈ lastOnly items) : item ∈ items := by
  induction items with
  | nil => exact member
  | cons first rest ih =>
    unfold lastOnly at member
    split at member
    · exact .tail _ (ih member)
    · rcases List.mem_cons.1 member with rfl | later
      · exact List.mem_cons_self
      · exact .tail _ (ih later)

theorem nodup_last_only (items : List Attribute) : ((lastOnly items).map (·.name)).Nodup := by
  induction items with
  | nil => exact .nil
  | cons item rest ih =>
    unfold lastOnly
    split
    · exact ih
    · rename_i fresh
      refine List.nodup_cons.2 ⟨fun member => fresh ?_, ih⟩
      obtain ⟨later, member, same⟩ := List.mem_map.1 member
      exact List.any_eq_true.2 ⟨later, mem_of_last_only member, by simpa using same⟩

theorem lastValue_last_only (items : List Attribute) (name : String) :
    lastValue? (lastOnly items) name = lastValue? items name := by
  induction items with
  | nil => rfl
  | cons item rest ih =>
    rw [lastValue_cons]
    unfold lastOnly
    split
    · rename_i repeated
      obtain ⟨later, member, same⟩ := List.any_eq_true.1 repeated
      rw [ih]
      cases found : lastValue? rest name with
      | some value => rfl
      | none =>
        have apart : item.name ≠ name := by
          rintro rfl
          exact lastValue_none_iff.1 found later member (by simpa using same)
        simp [apart]
    · rw [lastValue_cons, ih]

theorem lastValue_filter {kind : String → Bool} (taken : kind name = true) (items : List Attribute) :
    lastValue? (items.filter fun item => kind item.name) name = lastValue? items name := by
  induction items with
  | nil => rfl
  | cons item rest ih =>
    rw [lastValue_cons, List.filter_cons]
    split
    · rw [lastValue_cons, ih]
    · rename_i refused
      have apart : item.name ≠ name := by
        rintro rfl
        exact refused taken
      simp [apart, ih]

/-! ## Attributes that are accepted -/

theorem firstValue_put (item : Attribute) (items : List Attribute) (name : String) :
    firstValue? (put item items) name =
      if item.name = name then some item.value else firstValue? items name := by
  induction items with
  | nil => exact firstValue_cons item [] name
  | cons first rest ih =>
    unfold put
    split
    · rename_i same
      by_cases named : item.name = name <;> simp [firstValue_cons, same, named]
    · rename_i apart
      rw [firstValue_cons, firstValue_cons, ih]
      by_cases named : first.name = name
      · have other : item.name ≠ name := fun same => apart (named.trans same.symm)
        rw [if_pos named, if_pos named, if_neg other]
      · rw [if_neg named, if_neg named]

/-- Under the lenient policy no attribute is refused, and those that are taken have the values that
are given last. -/
theorem fold_lenient (directive : String) (allowed : List String) (given items : List Attribute) :
    ∃ result, given.foldlM (accept .lenient directive allowed) items = .ok result ∧
      ∀ name, firstValue? result name =
        if name ∈ allowed then (lastValue? given name).or (firstValue? items name)
        else firstValue? items name := by
  induction given generalizing items with
  | nil => exact ⟨items, rfl, fun name => by split <;> rfl⟩
  | cons item given ih =>
    by_cases taken : item.name ∈ allowed
    · obtain ⟨result, folded, values⟩ := ih (put item items)
      have accepted : accept .lenient directive allowed items item = .ok (put item items) := by
        simp [accept, taken]
      refine ⟨result, by rw [List.foldlM_cons, accepted]; exact folded, fun name => ?_⟩
      rw [values, firstValue_put, lastValue_cons]
      by_cases same : item.name = name
      · subst same
        simp [taken]
      · simp [same]
    · obtain ⟨result, folded, values⟩ := ih items
      have passed : accept .lenient directive allowed items item = .ok items := by
        simp [accept, taken]
      refine ⟨result, by rw [List.foldlM_cons, passed]; exact folded, fun name => ?_⟩
      rw [values, lastValue_cons]
      by_cases same : item.name = name
      · subst same
        simp [taken]
      · simp [same]

/-- A directive is told by the values of its attributes. -/
theorem of_attributes_congr (same : ∀ name, firstValue? items name = firstValue? given name)
    (directive : String) :
    Directive.ofAttributes ⟨directive, items⟩ = Directive.ofAttributes ⟨directive, given⟩ := by
  have values : AcceptedAttributes.get? ⟨directive, items⟩ =
      AcceptedAttributes.get? ⟨directive, given⟩ := funext same
  have required : AcceptedAttributes.require ⟨directive, items⟩ =
      AcceptedAttributes.require ⟨directive, given⟩ := by
    funext name
    rw [AcceptedAttributes.require, AcceptedAttributes.require, values]
  have template : AcceptedAttributes.template ⟨directive, items⟩ =
      AcceptedAttributes.template ⟨directive, given⟩ := rfl
  have templates : AcceptedAttributes.template? ⟨directive, items⟩ =
      AcceptedAttributes.template? ⟨directive, given⟩ := by
    funext name
    rw [AcceptedAttributes.template?, AcceptedAttributes.template?, values, template]
  have named : ∀ {α : Type}, @AcceptedAttributes.named? α ⟨directive, items⟩ =
      @AcceptedAttributes.named? α ⟨directive, given⟩ := by
    intro α
    funext name ofName?
    rw [AcceptedAttributes.named?, AcceptedAttributes.named?, values]
  have target : AcceptedAttributes.target ⟨directive, items⟩ =
      AcceptedAttributes.target ⟨directive, given⟩ := by
    rw [AcceptedAttributes.target, AcceptedAttributes.target, values, template]
  have condition : AcceptedAttributes.condition ⟨directive, items⟩ =
      AcceptedAttributes.condition ⟨directive, given⟩ := by
    rw [AcceptedAttributes.condition, AcceptedAttributes.condition, required]
  simp only [Directive.ofAttributes, values, required, template, templates, named, target,
    condition]

/-- Under the lenient policy a tag is told by its name and the last values that its directive
takes. -/
theorem of_tag_lenient {tag other : Tag} (named : other.name = tag.name)
    (same : ∀ name, takes tag.name name = true →
      lastValue? other.attributes name = lastValue? tag.attributes name) :
    Directive.ofTag .lenient other = Directive.ofTag .lenient tag := by
  unfold Directive.ofTag
  rw [named]
  cases allowed : Directive.allowed? tag.name with
  | none => rfl
  | some allowed' =>
    obtain ⟨result, folded, values⟩ := fold_lenient tag.name allowed' tag.attributes []
    obtain ⟨result', folded', values'⟩ := fold_lenient tag.name allowed' other.attributes []
    have equal : ∀ name, firstValue? result' name = firstValue? result name := by
      intro name
      rw [values, values']
      by_cases taken : name ∈ allowed'
      · rw [same name (by simp [takes, allowed, taken])]
      · simp [taken]
    simp only [AcceptedAttributes.ofTag, named, folded, folded']
    exact of_attributes_congr equal tag.name

/-- Under the strict policy attributes that are taken, and no two of which are alike, may stand in
any order. -/
theorem of_tag_strict {tag other : Tag} (named : other.name = tag.name)
    (distinct : (tag.attributes.map (·.name)).Nodup)
    (taken : ∀ item ∈ tag.attributes, takes tag.name item.name = true)
    (same : other.attributes.Perm tag.attributes) :
    Directive.ofTag .strict other = Directive.ofTag .strict tag := by
  unfold Directive.ofTag
  rw [named]
  cases allowed : Directive.allowed? tag.name with
  | none => rfl
  | some allowed' =>
    have within : ∀ item ∈ tag.attributes, item.name ∈ allowed' := by
      intro item member
      simpa [takes, allowed] using taken item member
    have folded := fold_accept .strict tag.name [] within distinct
    have folded' : other.attributes.foldlM (accept .strict tag.name allowed') [] =
        .ok other.attributes :=
      fold_accept .strict tag.name [] (fun item member => within item (same.mem_iff.1 member))
        ((same.map _).nodup_iff.2 distinct)
    simp only [AcceptedAttributes.ofTag, named, folded, folded']
    exact of_attributes_congr (fun name => firstValue_perm distinct same) tag.name

/-! ## What a tag does -/

def eraseFrame : Frame → Frame
  | .conditional _ condition body elifs last =>
    .conditional ⟨0, 0⟩ condition (eraseSpans body)
      (elifs.map fun branch => (branch.1, eraseSpans branch.2)) (last.map eraseSpans)
  | .block _ name body => .block ⟨0, 0⟩ name (eraseSpans body)

/-- A tree in the making without the places of its nodes and of what is open. -/
def eraseAssembly (assembly : Assembly) : Assembly :=
  ⟨eraseSpans assembly.root, assembly.frames.map eraseFrame⟩

theorem erase_append (before after : List Node) :
    eraseSpans (before ++ after) = eraseSpans before ++ eraseSpans after := by
  induction before with
  | nil => rfl
  | cons node rest ih => simp [eraseSpans, ih]

theorem erase_frame_push (node : Node) (frame : Frame) :
    eraseFrame (frame.push node) = (eraseFrame frame).push (eraseNode node) := by
  have alone : eraseSpans [node] = [eraseNode node] := rfl
  cases frame with
  | block opener name body => simp [Frame.push, eraseFrame, erase_append, alone]
  | conditional opener condition body elifs last =>
    cases last with
    | some last => simp [Frame.push, eraseFrame, erase_append, alone]
    | none =>
      cases elifs with
      | nil => simp [Frame.push, eraseFrame, erase_append, alone]
      | cons newest earlier => simp [Frame.push, eraseFrame, erase_append, alone]

theorem erase_push (node : Node) (assembly : Assembly) :
    eraseAssembly (assembly.push node) = (eraseAssembly assembly).push (eraseNode node) := by
  obtain ⟨root, frames⟩ := assembly
  cases frames with
  | nil => simp [Assembly.push, eraseAssembly, erase_append, eraseSpans]
  | cons frame outer => simp [Assembly.push, eraseAssembly, erase_frame_push]

/-- Where a directive stands makes no difference but for spans. -/
theorem erase_apply (assembly : Assembly) (directive : Directive) (span other : Span) :
    (assembly.apply span directive).map eraseAssembly =
      (assembly.apply other directive).map eraseAssembly := by
  cases directive with
  | leaf content => exact congrArg Except.ok (by rw [erase_push, erase_push, eraseNode, eraseNode])
  | startIf condition => rfl
  | startBlock name => rfl
  | elif test => rfl
  | otherwise => rfl
  | endIf =>
    obtain ⟨root, frames⟩ := assembly
    cases frames with
    | nil => rfl
    | cons frame outer =>
      cases frame with
      | block opener name body => rfl
      | conditional opener condition body elifs last =>
        exact congrArg Except.ok (by rw [erase_push, erase_push, eraseNode, eraseNode])
  | endBlock =>
    obtain ⟨root, frames⟩ := assembly
    cases frames with
    | nil => rfl
    | cons frame outer =>
      cases frame with
      | conditional opener condition body elifs last => rfl
      | block opener name body =>
        exact congrArg Except.ok (by rw [erase_push, erase_push, eraseNode, eraseNode])

/-- Two tags do the same to every tree in the making, or are refused with the same fault: in one
place exactly the same, and in two places the same but for spans. -/
def SameEffect (policy : AttributePolicy) (body other : Bytes) : Prop :=
  ∀ (assembly : Assembly) (span : Span),
    assembly.takeTag policy span body = assembly.takeTag policy span other ∧
      ∀ place, (assembly.takeTag policy span body).map eraseAssembly =
        (assembly.takeTag policy place other).map eraseAssembly

theorem take_tag_of_read (read : Tag.ofBody body = .ok tag) (assembly : Assembly)
    (policy : AttributePolicy) (span : Span) :
    assembly.takeTag policy span body =
      (if tag.name = "elif" then assembly.checkBranch "elif" else .ok ()).bind fun _ =>
        (Directive.ofTag policy tag).bind fun directive => assembly.apply span directive := by
  rw [Assembly.takeTag, read]
  by_cases branch : tag.name = "elif"
  · rw [if_pos branch]
    exact if_pos branch
  · rw [if_neg branch]
    exact if_neg branch

theorem same_effect_of_tags {tag tag' : Tag} (read : Tag.ofBody body = .ok tag)
    (read' : Tag.ofBody other = .ok tag') (named : tag'.name = tag.name)
    (same : Directive.ofTag policy tag' = Directive.ofTag policy tag) :
    SameEffect policy body other := by
  intro assembly span
  have here : ∀ place,
      assembly.takeTag policy place body = assembly.takeTag policy place other := by
    intro place
    rw [take_tag_of_read read, take_tag_of_read read', named, same]
  refine ⟨here span, fun place => ?_⟩
  rw [← here place, take_tag_of_read read, take_tag_of_read read]
  cases (if tag.name = "elif" then assembly.checkBranch "elif" else .ok ()) with
  | error fault => rfl
  | ok stands =>
    cases Directive.ofTag policy tag with
    | error fault => rfl
    | ok directive => exact erase_apply assembly directive span place

/-! ## The case of names -/

theorem toLower_of_not_upper {c : Char} (notUpper : c.isUpper = false) : c.toLower = c := by
  refine dif_neg fun upper => ?_
  have isUpper : c.isUpper = true := decide_eq_true upper
  rw [notUpper] at isUpper
  cases isUpper

theorem toLower_toLower (c : Char) : c.toLower.toLower = c.toLower := by
  cases upper : c.isUpper with
  | true => exact toLower_of_lower (lower_of_upper upper)
  | false => rw [toLower_of_not_upper upper, toLower_of_not_upper upper]

theorem alpha_toLower (c : Char) : c.toLower.isAlpha = c.isAlpha := by
  cases upper : c.isUpper with
  | true =>
    have isAlpha : c.isAlpha = true := Bool.or_eq_true_iff.2 (.inl upper)
    rw [alpha_of_lower (lower_of_upper upper), isAlpha]
  | false => rw [toLower_of_not_upper upper]

theorem attribute_char_toLower (c : Char) : isAttributeChar c.toLower = isAttributeChar c := by
  cases upper : c.isUpper with
  | true =>
    have isAlpha : c.isAlpha = true := Bool.or_eq_true_iff.2 (.inl upper)
    rw [attribute_char_of_alpha isAlpha,
      attribute_char_of_alpha (alpha_of_lower (lower_of_upper upper))]
  | false => rw [toLower_of_not_upper upper]

theorem lower_toLower (name : List Char) : lower (name.map Char.toLower) = lower name := by
  rw [lower, lower, List.map_map]
  exact congrArg String.ofList (List.map_congr_left fun c _ => toLower_toLower c)

/-- An attribute with its name in lower case. -/
def loweredAttribute (form : AttributeForm) : AttributeForm :=
  { form with name := form.name.map Char.toLower }

/-- A tag with all its names in lower case. -/
def lowered (form : TagForm) : TagForm :=
  { form with
    name := form.name.map Char.toLower
    attributes := form.attributes.map loweredAttribute }

theorem proper_lowered_attribute (form : AttributeForm) :
    (loweredAttribute form).Proper ↔ form.Proper := by
  have named : (∀ c ∈ form.name.map Char.toLower, isAttributeChar c = true) ↔
      ∀ c ∈ form.name, isAttributeChar c = true := by
    simp only [List.forall_mem_map, attribute_char_toLower]
  constructor
  · rintro ⟨gap, nonempty, characters, beforeEquals, afterEquals⟩
    exact ⟨gap, by simpa [loweredAttribute] using nonempty, named.1 characters, beforeEquals,
      afterEquals⟩
  · rintro ⟨gap, nonempty, characters, beforeEquals, afterEquals⟩
    exact ⟨gap, by simpa [loweredAttribute] using nonempty, named.2 characters, beforeEquals,
      afterEquals⟩

/-- Whether a letter follows the name does not depend on its case. -/
theorem head_tail_lowered (form : TagForm) :
    (lowered form).tail.head?.map Char.isAlpha = form.tail.head?.map Char.isAlpha := by
  obtain ⟨front, name, attributes, back⟩ := form
  cases attributes with
  | nil => rfl
  | cons item rest =>
    obtain ⟨gap, name, beforeEquals, afterEquals, content⟩ := item
    cases gap with
    | cons first gap => rfl
    | nil =>
      cases name with
      | cons first name => exact congrArg some (alpha_toLower first)
      | nil => cases beforeEquals <;> rfl

theorem proper_lowered (form : TagForm) : (lowered form).Proper ↔ form.Proper := by
  have named : (∀ c ∈ form.name.map Char.toLower, c.isAlpha = true) ↔
      ∀ c ∈ form.name, c.isAlpha = true := by
    simp only [List.forall_mem_map, alpha_toLower]
  have attributes : (∀ item ∈ form.attributes.map loweredAttribute, item.Proper) ↔
      ∀ item ∈ form.attributes, item.Proper := by
    simp only [List.forall_mem_map, proper_lowered_attribute]
  have ends : (∀ c ∈ (lowered form).tail.head?, c.isAlpha = false) ↔
      ∀ c ∈ form.tail.head?, c.isAlpha = false := by
    have test : ∀ head : Option Char, (∀ c ∈ head, c.isAlpha = false) ↔
        ∀ isAlpha ∈ head.map Char.isAlpha, isAlpha = false := by
      intro head
      simp
    rw [test, test, head_tail_lowered]
  constructor
  · rintro ⟨front, nonempty, letters, stops, items, back⟩
    exact ⟨front, by simpa [lowered] using nonempty, named.1 letters, ends.1 stops,
      attributes.1 items, back⟩
  · rintro ⟨front, nonempty, letters, stops, items, back⟩
    exact ⟨front, by simpa [lowered] using nonempty, named.2 letters, ends.2 stops,
      attributes.2 items, back⟩

theorem spells_lowered_attribute (form : AttributeForm) (item : Attribute) :
    (loweredAttribute form).Spells item ↔ form.Spells item := by
  constructor
  · rintro ⟨named, valued⟩
    exact ⟨named.trans (lower_toLower form.name), valued⟩
  · rintro ⟨named, valued⟩
    exact ⟨named.trans (lower_toLower form.name).symm, valued⟩

theorem spells_lowered (form : TagForm) (tag : Tag) :
    (lowered form).Spells tag ↔ form.Spells tag := by
  have attributes : List.Forall₂ AttributeForm.Spells (lowered form).attributes tag.attributes ↔
      List.Forall₂ AttributeForm.Spells form.attributes tag.attributes := by
    simp [lowered, List.forall₂_map_left_iff, spells_lowered_attribute]
  constructor
  · rintro ⟨named, items⟩
    exact ⟨named.trans (lower_toLower form.name), attributes.1 items⟩
  · rintro ⟨named, items⟩
    exact ⟨named.trans (lower_toLower form.name).symm, attributes.2 items⟩

/-- Tags that differ only in the case of their names are the same tag. -/
theorem body_of_lowered {form other : TagForm} (same : lowered other = lowered form)
    (proper : form.Proper) (spells : form.Spells tag) :
    Tag.ofBody (Bytes.ofChars other.text) = .ok tag := by
  have isProper : other.Proper := (proper_lowered other).1 (same ▸ (proper_lowered form).2 proper)
  have reads : other.Spells tag :=
    (spells_lowered other tag).1 (same ▸ (spells_lowered form tag).2 spells)
  exact body_of_spells isProper reads

/-! ## Which values count -/

/-- Under the lenient policy tags do the same that have the same name and the same last values under
the names that their directive takes; so attributes that are not taken can be left out, and those
that are given again later, and what is left may stand in any order. Under the strict policy
attributes that are taken, and no two of which are alike, may stand in any order. Under either policy
the case of names makes no difference. -/
theorem last_values_settle :
    (∀ body body' tag tag', Tag.ofBody body = .ok tag → Tag.ofBody body' = .ok tag' →
      tag'.name = tag.name →
      ((∀ name, takes tag.name name = true →
          lastValue? tag'.attributes name = lastValue? tag.attributes name) →
        SameEffect .lenient body body') ∧
      (tag'.attributes.Perm
          (lastOnly (tag.attributes.filter fun item => takes tag.name item.name)) →
        SameEffect .lenient body body') ∧
      ((tag.attributes.map (·.name)).Nodup →
          (∀ item ∈ tag.attributes, takes tag.name item.name = true) →
          tag'.attributes.Perm tag.attributes →
        SameEffect .strict body body')) ∧
      ∀ (form form' : TagForm) (tag : Tag), form.Proper → form.Spells tag →
        lowered form' = lowered form →
        Tag.ofBody (Bytes.ofChars form.text) = .ok tag ∧
          Tag.ofBody (Bytes.ofChars form'.text) = .ok tag ∧
          ∀ policy, SameEffect policy (Bytes.ofChars form.text) (Bytes.ofChars form'.text) := by
  refine ⟨fun body body' tag tag' read read' named => ⟨fun same => ?_, fun same => ?_,
    fun distinct taken same => ?_⟩, fun form form' tag proper spells same => ?_⟩
  · exact same_effect_of_tags read read' named (of_tag_lenient named same)
  · refine same_effect_of_tags read read' named (of_tag_lenient named fun name taken => ?_)
    rw [lastValue_perm (nodup_last_only _) same, lastValue_last_only, lastValue_filter taken]
  · exact same_effect_of_tags read read' named (of_tag_strict named distinct taken same)
  · have read := body_of_spells proper spells
    have read' := body_of_lowered same proper spells
    exact ⟨read, read', fun policy => same_effect_of_tags read read' rfl rfl⟩

/-- A tag with an attribute that is not taken, and with values that would be refused if they were not
given again. -/
def wordy : Bytes :=
  Bytes.ofText ("echo encoding=\"no\" var=\"a\" default=\"$\x7b\" var=\"b\" x=\"\" default=\"d\" " ++
    "encoding=\"url\"")

def wordyTag : Tag :=
  ⟨"echo", [⟨"encoding", "no"⟩, ⟨"var", "a"⟩, ⟨"default", "$\x7b"⟩, ⟨"var", "b"⟩, ⟨"x", ""⟩,
    ⟨"default", "d"⟩, ⟨"encoding", "url"⟩]⟩

def tidy : Bytes := Bytes.ofText "echo encoding=\"url\" default=\"d\" var=\"b\""

def tidyTag : Tag := ⟨"echo", [⟨"encoding", "url"⟩, ⟨"default", "d"⟩, ⟨"var", "b"⟩]⟩

/-- The same attributes in another order. -/
def turned : Bytes := Bytes.ofText "echo default=\"d\" encoding=\"url\" var=\"b\""

def turnedTag : Tag := ⟨"echo", [⟨"default", "d"⟩, ⟨"encoding", "url"⟩, ⟨"var", "b"⟩]⟩

/-- A tag for a choice of its names. -/
def setForm (name first second : String) : TagForm :=
  ⟨[], name.toList,
    [⟨" ".toList, first.toList, [], [], "a".toList⟩,
      ⟨" ".toList, second.toList, [], [], "b".toList⟩], []⟩

theorem tidy_last_values_settle :
    (∀ name, takes "echo" name = true →
        lastValue? tidyTag.attributes name = lastValue? wordyTag.attributes name) ∧
      SameEffect .lenient wordy tidy ∧ SameEffect .lenient wordy turned ∧
      SameEffect .strict tidy turned ∧
      Tag.ofBody (Bytes.ofChars (setForm "SeT" "Var" "VALUE").text) =
        .ok ⟨"set", [⟨"var", "a"⟩, ⟨"value", "b"⟩]⟩ := by
  have readWordy : Tag.ofBody wordy = .ok wordyTag := by decide +kernel
  have readTidy : Tag.ofBody tidy = .ok tidyTag := by decide +kernel
  have readTurned : Tag.ofBody turned = .ok turnedTag := by decide +kernel
  have values : ∀ name, takes "echo" name = true →
      lastValue? tidyTag.attributes name = lastValue? wordyTag.attributes name := by
    intro name taken
    have isTaken : name = "var" ∨ name = "encoding" ∨ name = "default" := by
      simpa [takes, Directive.allowed?] using taken
    rcases isTaken with rfl | rfl | rfl <;> decide
  have lenient := (last_values_settle.1 wordy tidy wordyTag tidyTag readWordy readTidy rfl).1 values
  have reordered :=
    (last_values_settle.1 wordy turned wordyTag turnedTag readWordy readTurned rfl).2.1
      (by decide +kernel)
  have strict := (last_values_settle.1 tidy turned tidyTag turnedTag readTidy readTurned rfl).2.2
    (by decide) (by decide +kernel) (by decide +kernel)
  have proper : (setForm "set" "var" "value").Proper := by
    refine ⟨List.forall_mem_nil _, by decide, List.all_eq_true.1 (by decide), ?_,
      List.forall_mem_cons.2 ⟨?_, List.forall_mem_cons.2 ⟨?_, List.forall_mem_nil _⟩⟩,
      List.forall_mem_nil _⟩
    · rintro c ⟨⟩
      rfl
    · exact ⟨List.all_eq_true.1 (by decide), by decide, List.all_eq_true.1 (by decide),
        List.forall_mem_nil _, List.forall_mem_nil _⟩
    · exact ⟨List.all_eq_true.1 (by decide), by decide, List.all_eq_true.1 (by decide),
        List.forall_mem_nil _, List.forall_mem_nil _⟩
  have spells : (setForm "set" "var" "value").Spells
      ⟨"set", [⟨"var", "a"⟩, ⟨"value", "b"⟩]⟩ :=
    ⟨rfl, .cons ⟨rfl, .plain (by decide) (by decide) .nil⟩
      (.cons ⟨rfl, .plain (by decide) (by decide) .nil⟩ .nil)⟩
  have cased := last_values_settle.2 _ (setForm "SeT" "Var" "VALUE") _ proper spells (by decide)
  exact ⟨values, lenient, reordered, strict, cased.2.1⟩

end ServerIncludes.LastValues
