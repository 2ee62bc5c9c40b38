import ServerIncludes.Document.Directive
import ServerIncludes.Proofs.Parts

/-! Directives and the attributes they come from. What the attributes have to give is said for each
directive by itself, and of the attributes of a tag those are accepted, under either policy, that the
directive takes and no two of which are alike. -/
namespace ServerIncludes.DirectiveAttributes

open Parts
open AcceptedAttributes (accept put)

/-! ## What directives are made of -/

/-- The names that directives have; of any other name is a directive that does nothing. -/
def known : List String :=
  ["if", "elif", "else", "endif", "block", "endblock", "echo", "set", "include", "config",
    "flastmod", "fsize", "printenv", "comment"]

/-- The attributes of a tag give what a directive is made of. -/
inductive Describes (attributes : AcceptedAttributes) : Directive → Prop where
  | startIf (named : attributes.directive = "if")
      (tested : attributes.condition = .ok condition) : Describes attributes (.startIf condition)
  | elif (named : attributes.directive = "elif")
      (tested : attributes.condition = .ok condition) : Describes attributes (.elif condition)
  | otherwise (named : attributes.directive = "else") : Describes attributes .otherwise
  | endIf (named : attributes.directive = "endif") : Describes attributes .endIf
  | startBlock (named : attributes.directive = "block")
      (given : attributes.require "name" = .ok name) : Describes attributes (.startBlock name)
  | endBlock (named : attributes.directive = "endblock") : Describes attributes .endBlock
  | echo (named : attributes.directive = "echo") (given : attributes.require "var" = .ok name)
      (encoded : attributes.named? "encoding" Encoding.ofName? = .ok encoding)
      (replaced : attributes.template? "default" = .ok instead) :
    Describes attributes (.leaf (.echo name encoding instead))
  | assign (named : attributes.directive = "set") (given : attributes.require "var" = .ok name)
      (valued : attributes.require "value" = .ok text)
      (filled : attributes.template text = .ok value) :
    Describes attributes (.leaf (.assign name value))
  | inclusion (named : attributes.directive = "include") (aimed : attributes.target = .ok target)
      (handled : attributes.template? "onerror" = .ok onError) :
    Describes attributes
      (.leaf (.inclusion target onError (attributes.get? "set") (attributes.get? "stub")))
  | configure (named : attributes.directive = "config")
      (failed : attributes.template? "errmsg" = .ok errorMessage)
      (missed : attributes.template? "echomsg" = .ok missingMessage)
      (sized : attributes.named? "sizefmt" SizeFormat.ofName? = .ok sizeFormat)
      (timed : attributes.named? "timefmt"
        (fun text => if TimeFormat.isValid text then some text else none) = .ok timeFormat) :
    Describes attributes (.leaf (.configure errorMessage missingMessage sizeFormat timeFormat))
  | lastModified (named : attributes.directive = "flastmod")
      (aimed : attributes.target = .ok target) : Describes attributes (.leaf (.lastModified target))
  | fileSize (named : attributes.directive = "fsize") (aimed : attributes.target = .ok target) :
    Describes attributes (.leaf (.fileSize target))
  | listVariables (named : attributes.directive = "printenv") :
    Describes attributes (.leaf .listVariables)
  | comment (named : attributes.directive = "comment") : Describes attributes (.leaf .comment)
  | unknown (other : attributes.directive ∉ known) :
    Describes attributes (.leaf (.unknown attributes.directive))

theorem of_attributes_of_describes (describes : Describes attributes directive) :
    Directive.ofAttributes attributes = .ok directive := by
  cases describes with
  | unknown other =>
    simp only [known, List.mem_cons, List.not_mem_nil, or_false, not_or] at other
    simp [Directive.ofAttributes, other, pure, Except.pure]
  | _ => simp [Directive.ofAttributes, bind, Except.bind, pure, Except.pure, *]

theorem describes_of_attributes (read : Directive.ofAttributes attributes = .ok directive) :
    Describes attributes directive := by
  rcases of_ite read with ⟨named, read⟩ | ⟨notIf, read⟩
  · obtain ⟨condition, tested, ⟨⟩⟩ := ok_of_bind read
    exact .startIf named tested
  rcases of_ite read with ⟨named, read⟩ | ⟨notElif, read⟩
  · obtain ⟨condition, tested, ⟨⟩⟩ := ok_of_bind read
    exact .elif named tested
  rcases of_ite read with ⟨named, ⟨⟩⟩ | ⟨notElse, read⟩
  · exact .otherwise named
  rcases of_ite read with ⟨named, ⟨⟩⟩ | ⟨notEndIf, read⟩
  · exact .endIf named
  rcases of_ite read with ⟨named, read⟩ | ⟨notBlock, read⟩
  · obtain ⟨name, given, ⟨⟩⟩ := ok_of_bind read
    exact .startBlock named given
  rcases of_ite read with ⟨named, ⟨⟩⟩ | ⟨notEndBlock, read⟩
  · exact .endBlock named
  rcases of_ite read with ⟨named, read⟩ | ⟨notEcho, read⟩
  · obtain ⟨name, given, read⟩ := ok_of_bind read
    obtain ⟨encoding, encoded, read⟩ := ok_of_bind read
    obtain ⟨instead, replaced, ⟨⟩⟩ := ok_of_bind read
    exact .echo named given encoded replaced
  rcases of_ite read with ⟨named, read⟩ | ⟨notSet, read⟩
  · obtain ⟨name, given, read⟩ := ok_of_bind read
    obtain ⟨text, valued, read⟩ := ok_of_bind read
    obtain ⟨value, filled, ⟨⟩⟩ := ok_of_bind read
    exact .assign named given valued filled
  rcases of_ite read with ⟨named, read⟩ | ⟨notInclude, read⟩
  · obtain ⟨target, aimed, read⟩ := ok_of_bind read
    obtain ⟨onError, handled, ⟨⟩⟩ := ok_of_bind read
    exact .inclusion named aimed handled
  rcases of_ite read with ⟨named, read⟩ | ⟨notConfig, read⟩
  · obtain ⟨errorMessage, failed, read⟩ := ok_of_bind read
    obtain ⟨missingMessage, missed, read⟩ := ok_of_bind read
    obtain ⟨sizeFormat, sized, read⟩ := ok_of_bind read
    obtain ⟨timeFormat, timed, ⟨⟩⟩ := ok_of_bind read
    exact .configure named failed missed sized timed
  rcases of_ite read with ⟨named, read⟩ | ⟨notLastModified, read⟩
  · obtain ⟨target, aimed, ⟨⟩⟩ := ok_of_bind read
    exact .lastModified named aimed
  rcases of_ite read with ⟨named, read⟩ | ⟨notFileSize, read⟩
  · obtain ⟨target, aimed, ⟨⟩⟩ := ok_of_bind read
    exact .fileSize named aimed
  rcases of_ite read with ⟨named, ⟨⟩⟩ | ⟨notListing, read⟩
  · exact .listVariables named
  rcases of_ite read with ⟨named, ⟨⟩⟩ | ⟨notComment, ⟨⟩⟩
  · exact .comment named
  · exact .unknown (by simp [known, *])

/-! ## Attributes that are accepted -/

variable {items : List Attribute} {item : Attribute}

theorem not_literal_of_describes (describes : Describes attributes directive) (bytes : Bytes) :
    directive ≠ .leaf (.literal bytes) := by
  cases describes <;> exact nofun

theorem mem_put (member : kept ∈ put item items) : kept = item ∨ kept ∈ items := by
  induction items with
  | nil => exact .inl (List.mem_singleton.1 member)
  | cons first rest ih =>
    unfold put at member
    split at member
    · rcases List.mem_cons.1 member with rfl | member
      · exact .inl rfl
      · exact .inr (.tail _ member)
    · rcases List.mem_cons.1 member with rfl | member
      · exact .inr List.mem_cons_self
      · exact (ih member).imp_right (.tail _)

theorem mem_of_accept (accepted : accept policy directive allowed items item = .ok next)
    (member : kept ∈ next) : kept = item ∨ kept ∈ items := by
  unfold accept at accepted
  split at accepted
  · cases policy with
    | lenient =>
      cases accepted
      exact .inr member
    | strict => cases accepted
  · split at accepted
    · cases accepted
    · cases accepted
      exact mem_put member

/-- No attribute is accepted that the tag does not have. -/
theorem mem_of_fold {given : List Attribute}
    (accepted : given.foldlM (accept policy directive allowed) items = .ok result)
    (member : kept ∈ result) : kept ∈ given ∨ kept ∈ items := by
  induction given generalizing items with
  | nil =>
    cases accepted
    exact .inr member
  | cons item given ih =>
    obtain ⟨next, first, later⟩ := ok_of_bind accepted
    rcases ih later with isLater | isHeld
    · exact .inl (.tail _ isLater)
    · rcases mem_of_accept first isHeld with rfl | isHeld
      · exact .inl List.mem_cons_self
      · exact .inr isHeld

/-- A tag that stands for a directive gives what that is made of in some of its attributes. -/
theorem describes_of_tag (read : Directive.ofTag policy tag = .ok directive) :
    ∃ attributes, attributes.directive = tag.name ∧
      (∀ item ∈ attributes.items, item ∈ tag.attributes) ∧ Describes attributes directive := by
  unfold Directive.ofTag at read
  split at read
  · exact ⟨⟨tag.name, []⟩, rfl, nofun, describes_of_attributes read⟩
  · obtain ⟨attributes, accepted, read⟩ := ok_of_bind read
    obtain ⟨items, folded, rfl⟩ := ok_of_map accepted
    refine ⟨_, rfl, fun item member => ?_, describes_of_attributes read⟩
    exact (mem_of_fold folded member).resolve_right nofun

theorem put_fresh (fresh : ∀ held ∈ items, held.name ≠ item.name) :
    put item items = items ++ [item] := by
  induction items with
  | nil => rfl
  | cons first rest ih =>
    obtain ⟨apart, fresh⟩ := List.forall_mem_cons.1 fresh
    simp [put, apart, ih fresh]

/-- Attributes that a directive takes, no two of them alike, are accepted as they are. -/
theorem fold_accept (policy : AttributePolicy) (directive : String) (items : List Attribute)
    {given : List Attribute} (within : ∀ item ∈ given, item.name ∈ allowed)
    (distinct : ((items ++ given).map (·.name)).Nodup) :
    given.foldlM (accept policy directive allowed) items = .ok (items ++ given) := by
  induction given generalizing items with
  | nil =>
    rw [List.append_nil]
    rfl
  | cons item given ih =>
    obtain ⟨taken, within⟩ := List.forall_mem_cons.1 within
    have fresh : ∀ held ∈ items, held.name ≠ item.name := by
      intro held member same
      rw [List.map_append, List.nodup_append] at distinct
      exact distinct.2.2 held.name (List.mem_map_of_mem member) item.name (by simp) same
    have accepted : accept policy directive allowed items item = .ok (items ++ [item]) := by
      have notHeld : ¬ items.any fun held => held.name == item.name := by
        simpa using fresh
      simp [accept, taken, notHeld, put_fresh fresh]
    rw [List.append_cons] at distinct ⊢
    rw [List.foldlM_cons, accepted]
    exact ih _ within distinct

end ServerIncludes.DirectiveAttributes
