import Mathlib.Data.List.Infix
import ServerIncludes.Configuration
import ServerIncludes.Proofs.Evaluation.Effects
import ServerIncludes.Proofs.Evaluation.ReportedTags

/-! Time formats are valid wherever times are written. A format comes from a configuration or from a
tag, and both are refused if their format is not valid; evaluations only ever copy formats from one
place to another. So contexts that come from configurations, and those that evaluations of documents
leave, hold no other formats, at any point of a run. Not every valid format is one that times can be
written in; over those that are not evaluations break off, and over nothing else. -/
namespace ServerIncludes.TimeFormats

open Accesses Failures Plans Questions
open Accounting (leaf_item_of_tag)
open DirectiveAttributes (describes_of_tag Describes)
open HeldAttributes (given_of_named?)
open Parts (of_ite ok_of_bind ok_of_to_option)
open ReportedTags (accounted_of_parse)

/-- The time format in force and the one that settings are reset to are valid. -/
structure Sound (context : Context) : Prop where
  live : TimeFormat.isValid context.settings.timeFormat = true
  standing : TimeFormat.isValid context.defaults.timeFormat = true

/-- Times are written in the very format that is set. -/
def WritesAsSet (settings : Settings) : Prop :=
  ∃ format, TimeFormat.parse? settings.timeFormat = some format ∧
    ∀ zone instant, settings.writeTime zone instant = format.write zone instant

/-- A valid format is not replaced by the fallback. -/
theorem writes_as_set {settings : Settings}
    (valid : TimeFormat.isValid settings.timeFormat = true) : WritesAsSet settings := by
  obtain ⟨format, read⟩ := Option.isSome_iff_exists.1 valid
  refine ⟨format, read, fun zone instant => ?_⟩
  simp [Settings.writeTime, TimeFormat.ofText, read]

/-! ## Formats that tags give -/

/-- The formats that the directives of a tree set, at any depth, are valid. -/
def SetsValid (tree : List Node) : Prop :=
  ∀ span errorMessage missingMessage sizeFormat text,
    Has tree (.leaf span (.configure errorMessage missingMessage sizeFormat (some text))) →
      TimeFormat.isValid text = true

theorem valid_of_describes (describes : Describes attributes
    (.leaf (.configure errorMessage missingMessage sizeFormat (some text)))) :
    TimeFormat.isValid text = true := by
  cases describes with
  | configure named failed missed sized timed =>
    obtain ⟨given, -, kept⟩ := given_of_named? timed text rfl
    rcases of_ite kept with ⟨valid, same⟩ | ⟨-, none⟩
    · cases same
      exact valid
    · cases none

theorem sets_valid_of_parse (parsed : Document.parse policy document = .ok nodes) :
    SetsValid nodes := by
  intro span errorMessage missingMessage sizeFormat text held
  obtain ⟨spans, occupied, -⟩ := accounted_of_parse parsed held
  cases occupied with
  | cons own others =>
    have notText : ∀ bytes, Leaf.configure errorMessage missingMessage sizeFormat (some text) ≠
        .literal bytes := nofun
    rw [leaf_item_of_tag notText] at own
    obtain ⟨body, -, read⟩ := own
    obtain ⟨tag, -, stands⟩ := ok_of_bind read
    obtain ⟨attributes, -, -, describes⟩ := describes_of_tag stands
    exact valid_of_describes describes

/-! ## Accesses -/

/-- An access sets no format but a valid one. -/
def Proper : Access → Prop
  | .configure _ _ _ (some text) => TimeFormat.isValid text = true
  | _ => True

theorem proper_of_made (valid : SetsValid tree) (held : Has tree node) (made : ByNode node access) :
    Proper access := by
  cases access with
  | configure errorMessage missingMessage sizeFormat timeFormat =>
    cases timeFormat with
    | none => trivial
    | some text =>
      cases made with
      | given errors missing => exact valid _ _ _ _ _ held
  | _ => trivial

theorem sound_apply (sound : Sound context) (proper : Proper access) :
    Sound (access.apply context) := by
  cases access with
  | configure errorMessage missingMessage sizeFormat timeFormat =>
    cases timeFormat with
    | none => exact ⟨sound.live, sound.standing⟩
    | some text => exact ⟨proper, sound.standing⟩
  | _ => exact ⟨sound.live, sound.standing⟩

theorem sound_replay (sound : Sound context) (proper : ∀ access ∈ accesses, Proper access) :
    Sound (replay context accesses) := by
  induction accesses generalizing context with
  | nil => exact sound
  | cons access rest ih =>
    obtain ⟨first, later⟩ := List.forall_mem_cons.1 proper
    exact ih (sound_apply sound first) later

/-! ## Points of a run -/

/-- The contexts before, between and after some accesses. -/
def along (context : Context) (accesses : List Access) : List Context :=
  accesses.inits.map (replay context)

theorem last_mem_along (context : Context) (accesses : List Access) :
    replay context accesses ∈ along context accesses :=
  List.mem_map_of_mem ((List.mem_inits _ _).2 (List.prefix_refl _))

theorem sound_along (sound : Sound context) (proper : ∀ access ∈ accesses, Proper access) :
    ∀ point ∈ along context accesses, Sound point := by
  intro point member
  obtain ⟨earlier, isPrefix, rfl⟩ := List.mem_map.1 member
  have within : earlier ⊆ accesses := ((List.mem_inits _ _).1 isPrefix).subset
  exact sound_replay sound fun access held => proper access (within held)

section

variable {names : List String} {resolver : Resolver} {tree : List Node}

/-- The contexts at all points at which a plan is carried out: within each step, in the blocks that
are rendered, and at the end. -/
def passes (resolver : Resolver) : Plan names α → EvalState names → List Context
  | .done _, state => [state.context]
  | .step node first next, state =>
    along state.context (ofStep first state.context) ++
      onwards (first.run resolver (siteOf node) state) fun answer later =>
        passes resolver (next answer) later
  | .inside _ body next, state =>
    passes resolver body state ++
      onwards (Run.capture (body.run resolver) state) fun bytes later =>
        passes resolver (next bytes) later

/-- However a step ends, the context after it is one that the run comes to. -/
theorem after_mem_bind {step : Run names α} {next : α → Run names β}
    {further : α → EvalState names → List Context}
    (first : (step state).state.context ∈ before)
    (later : ∀ value, (step state).result = .ok value →
      (next value (step state).state).state.context ∈ further value (step state).state) :
    ((step >>= next) state).state.context ∈ before ++ onwards (step state) further := by
  unfold onwards
  cases ended : (step state).result with
  | error abort =>
    rw [bind_of_error ended]
    exact List.mem_append_left _ first
  | ok value =>
    rw [bind_of_ok ended]
    exact List.mem_append_right _ (later value ended)

/-- What a run ends with, also if it ends early, is one of its points. -/
theorem last_mem_passes (plan : Plan names α) (state : EvalState names) :
    (plan.run resolver state).state.context ∈ passes resolver plan state := by
  induction plan generalizing state with
  | done value => exact List.mem_singleton_self _
  | step node first next ih =>
    refine after_mem_bind ?_ fun answer _ => ih answer _
    have accounts : Accounts state (ofStep first state.context)
        (first.run resolver (siteOf node) state) := accounts_step (siteOf node) first state
    rw [← accounts.after]
    exact last_mem_along _ _
  | inside name body next within ih => exact after_mem_bind (within state) fun bytes _ => ih bytes _

/-- While a plan that stays within a tree is carried out, formats stay valid. -/
theorem sound_passes {plan : Plan names α} (valid : SetsValid tree)
    (stays : Stays tree plan expected) (known : Known tree state) (sound : Sound state.context) :
    ∀ point ∈ passes resolver plan state, Sound point := by
  induction plan generalizing state with
  | done value => simpa [passes] using sound
  | step node first next ih =>
    obtain ⟨still, answered⟩ := known_step resolver (siteOf node) stays.1 known
    have within : ∀ point ∈ along state.context (ofStep first state.context), Sound point :=
      sound_along sound fun access member =>
        proper_of_made valid stays.1.1 (made_of_step stays.1.2 state.context access member)
    refine List.forall_mem_append.2 ⟨within, forall_mem_onwards fun answer ended => ?_⟩
    have accounts : Accounts state (ofStep first state.context)
        (first.run resolver (siteOf node) state) := accounts_step (siteOf node) first state
    refine ih answer (stays.2 answer (answered answer ended)) still (within _ ?_)
    rw [← accounts.after]
    exact last_mem_along _ _
  | inside name body next inner ih =>
    have within := inner stays.1 known sound
    refine List.forall_mem_append.2 ⟨within, forall_mem_onwards fun bytes _ => ?_⟩
    have after : Sound (Run.capture (body.run resolver) state).state.context :=
      within _ (last_mem_passes body state)
    exact ih bytes (stays.2 bytes) (known_of_stays stays.1 known) after

end

/-! ## Times that cannot be written -/

/-- The format in force after some accesses was in force before them, or one of them sets it. -/
theorem time_format_of_replay (inForce : (replay context accesses).settings.timeFormat = format) :
    context.settings.timeFormat = format ∨ ∃ errorMessage missingMessage sizeFormat,
      .configure errorMessage missingMessage sizeFormat (some format) ∈ accesses := by
  induction accesses generalizing context with
  | nil => exact .inl inForce
  | cons access rest ih =>
    rcases ih inForce with kept | ⟨errors, missing, size, given⟩
    · cases access with
      | configure errors missing size timeFormat =>
        cases timeFormat with
        | none => exact .inl kept
        | some text =>
          cases kept
          exact .inr ⟨errors, missing, size, List.mem_cons_self⟩
      | _ => exact .inl kept
    · exact .inr ⟨errors, missing, size, List.mem_cons_of_mem _ given⟩

/-- A format that fails at a time cannot be written in, and is the one in force at the start unless an
access sets it. -/
theorem origin_of_unwritable (due : AllDue context accesses) (fails : .unwritable format ∈ accesses) :
    (TimeFormat.ofText format).isWritable = false ∧
      (format = context.settings.timeFormat ∨ ∃ errorMessage missingMessage sizeFormat,
        .configure errorMessage missingMessage sizeFormat (some format) ∈ accesses) := by
  obtain ⟨earlier, later, rfl⟩ := List.append_of_mem fails
  obtain ⟨inForce, unwritable⟩ := (all_due_append.1 due).2.1
  refine ⟨unwritable, ?_⟩
  rcases time_format_of_replay inForce.symm with kept | ⟨errors, missing, size, given⟩
  · exact .inl kept.symm
  · exact .inr ⟨errors, missing, size, List.mem_append_left _ given⟩

theorem mem_of_lookups (left : .unwritable format ∈ lookups accesses) :
    .unwritable format ∈ accesses := by
  obtain ⟨access, member, told⟩ := List.mem_filterMap.1 left
  cases access with
  | unwritable other =>
    cases told
    exact member
  | _ => cases told

/-- An evaluation breaks off only over a format that times cannot be written in, which is the default
one or one that a directive of the tree sets. -/
theorem unwritable_of_broken_off (broken : conclusion resolver context nodes = .brokenOff format) :
    (TimeFormat.ofText format).isWritable = false ∧
      (format = context.defaults.timeFormat ∨ ∃ span errorMessage missingMessage sizeFormat,
        Has nodes (.leaf span (.configure errorMessage missingMessage sizeFormat (some format)))) := by
  have accounts : Accounts _ _ (outcomeOf resolver context nodes) := accounts_run _ _
  obtain ⟨lookup, left, told⟩ := List.exists_of_findSome?_eq_some (conclusion_broken_off.1 broken)
  rw [evaluate_eq] at left
  cases lookup with
  | fallback name => cases told
  | unwritable format =>
    cases told
    obtain ⟨unwritable, origin⟩ :=
      origin_of_unwritable accounts.due (mem_of_lookups (accounts.asked.symm ▸ left))
    refine ⟨unwritable, origin.imp id ?_⟩
    rintro ⟨errors, missing, size, member⟩
    obtain ⟨node, held, made⟩ :=
      made_of_stays (stays_of_tree nodes _) (known_empty rfl) _ member
    cases made with
    | given errors missing => exact ⟨_, _, _, _, held⟩

/-- Where times can be written in the default format and in all formats that a tree sets, an
evaluation finishes or ends with a fatal answer. -/
theorem conclusion_of_writable
    (standing : (TimeFormat.ofText context.defaults.timeFormat).isWritable = true)
    (writable : ∀ span errorMessage missingMessage sizeFormat text,
      Has nodes (.leaf span (.configure errorMessage missingMessage sizeFormat (some text))) →
        (TimeFormat.ofText text).isWritable = true) :
    conclusion resolver context nodes = .ofResult (evaluate resolver context nodes).1 := by
  apply conclusion_of_unbroken
  cases told : (evaluate resolver context nodes).2.brokenOff? with
  | none => rfl
  | some format =>
    obtain ⟨fails, same | ⟨span, errors, missing, size, held⟩⟩ :=
      unwritable_of_broken_off (conclusion_broken_off.2 told)
    · rw [same, standing] at fails
      cases fails
    · rw [writable span errors missing size format held] at fails
      cases fails

/-! ## Evaluations one after another -/

theorem names_of_all (nodes : List Node) :
    Node.listBlockNames nodes ⊆ Node.listBlockNames nodes := List.Subset.refl _

/-- The contexts at all points of an evaluation, which starts by undoing changes of settings. -/
def points (resolver : Resolver) (context : Context) (nodes : List Node) : List Context :=
  passes resolver (ofTree nodes (names_of_all nodes)) ⟨context.resetSettings, [], []⟩

theorem report_mem_points (ended : (evaluate resolver context nodes).1 = .ok report) :
    report.context ∈ points resolver context nodes := by
  rw [report_of_evaluate ended]
  exact last_mem_passes _ _

/-- Contexts that one can come by: new ones, those of configurations, and what evaluations of
documents leave of them. In between, variables, the fallback source and the clocks can be set. -/
inductive Obtained : Context → Prop where
  | standard : Obtained (.ofSettings .standard)
  | configured (read : Configuration.ofText text = .ok configuration) :
    Obtained configuration.context
  | prepared (earlier : Obtained context) (bindings : Variables)
      (fallback : Option (String → Option String)) (now : Instant)
      (localOffset : Instant → Offset) :
    Obtained { context with bindings, fallback, now, localOffset }
  | evaluated (earlier : Obtained context) (parsed : Document.parse policy document = .ok nodes)
      (ended : (evaluate resolver context nodes).1 = .ok report) : Obtained report.context

theorem sound_points (sound : Sound context) (parsed : Document.parse policy document = .ok nodes)
    (resolver : Resolver) : ∀ point ∈ points resolver context nodes, Sound point :=
  sound_passes (sets_valid_of_parse parsed) (stays_of_tree nodes _) (known_empty rfl)
    ⟨sound.standing, sound.standing⟩

theorem sound_of_settings (valid : TimeFormat.isValid settings.timeFormat = true) :
    Sound (.ofSettings settings) := ⟨valid, valid⟩

theorem valid_of_configured (read : Configuration.ofText text = .ok configuration) :
    TimeFormat.isValid configuration.settings.timeFormat = true := by
  unfold Configuration.ofText at read
  split at read
  · cases read
  · rcases of_ite read with ⟨valid, same⟩ | ⟨-, refused⟩
    · cases same
      exact valid
    · cases refused

theorem sound_of_obtained (obtained : Obtained context) : Sound context := by
  induction obtained with
  | standard => exact sound_of_settings (by decide +kernel)
  | configured read => exact sound_of_settings (valid_of_configured read)
  | prepared earlier bindings fallback now localOffset ih => exact ⟨ih.live, ih.standing⟩
  | evaluated earlier parsed ended ih => exact sound_points ih parsed _ _ (report_mem_points ended)

/-- Whatever documents have been evaluated before, and with whatever resolvers: at every point of an
evaluation of a document, the time format in force and the one by default are valid, and times are
written in the format in force and not in the fallback. The same holds between evaluations. -/
theorem evaluate_time_formats (obtained : Obtained context)
    (parsed : Document.parse policy document = .ok nodes) (resolver : Resolver) :
    Sound context ∧
      ∀ point ∈ points resolver context nodes, Sound point ∧ WritesAsSet point.settings := by
  have sound := sound_of_obtained obtained
  refine ⟨sound, fun point member => ?_⟩
  have here := sound_points sound parsed resolver point member
  exact ⟨here, writes_as_set here.live⟩

/-- A configured format that one document has changed is back in force for the next one, until a
block of that changes it. -/
theorem evaluate_time_formats_block :
    let settings (format : String) : Settings := { Settings.standard with timeFormat := format }
    let configuration : Configuration := ⟨.lenient, settings "%Y"⟩
    let context : Context := { configuration.context with settings := settings "%H" }
    let tree : List Node := [.leaf ⟨0, 28⟩ (.configure none none none (some "%H"))]
    let resolver := FileStore.empty.resolver
    Configuration.ofText "[directives]\ntimefmt = \"%Y\"\n" = .ok configuration ∧
      Document.parse .strict (Bytes.ofText "<!--#config timefmt=\"%H\" -->") = .ok tree ∧
      (evaluate resolver configuration.context tree).1 = .ok ⟨[], [], context⟩ ∧
      ∃ nodes, Document.parse .strict (Bytes.ofText ("<!--#block name=\"b\" -->" ++
          "<!--#config timefmt=\"%j\" --><!--#endblock --><!--#echo var=\"b\" -->")) = .ok nodes ∧
        (points resolver context nodes).map (·.settings.timeFormat) =
          List.replicate 5 "%Y" ++ List.replicate 4 "%j" ∧
        Sound context ∧
        ∀ point ∈ points resolver context nodes, Sound point ∧ WritesAsSet point.settings := by
  intro settings configuration context tree resolver
  obtain ⟨_, read, rfl⟩ : ∃ found, Configuration.ofText "[directives]\ntimefmt = \"%Y\"\n" =
      .ok found ∧ id found = configuration := ok_of_to_option (by decide +kernel)
  obtain ⟨_, parsed, rfl⟩ : ∃ found, Document.parse .strict
      (Bytes.ofText "<!--#config timefmt=\"%H\" -->") = .ok found ∧ id found = tree :=
    ok_of_to_option (by decide +kernel)
  have ended : (evaluate resolver configuration.context tree).1 = .ok ⟨[], [], context⟩ := rfl
  obtain ⟨nodes, parsed', formats⟩ : ∃ nodes, Document.parse .strict
      (Bytes.ofText ("<!--#block name=\"b\" --><!--#config timefmt=\"%j\" -->" ++
        "<!--#endblock --><!--#echo var=\"b\" -->")) = .ok nodes ∧
      (points resolver context nodes).map (·.settings.timeFormat) =
        List.replicate 5 "%Y" ++ List.replicate 4 "%j" := ok_of_to_option (by decide +kernel)
  have obtained : Obtained context := .evaluated (.configured read) parsed ended
  exact ⟨read, parsed, ended, nodes, parsed', formats,
    evaluate_time_formats obtained parsed' resolver⟩

end ServerIncludes.TimeFormats
