import ServerIncludes.Proofs.Evaluation.Plan
import ServerIncludes.Proofs.Evaluation.Termination

/-! Evaluations that a fatal answer ends have left the beginning of what they would have left without
it. Under a resolver that gives other answers only where the first one fails fatally, a tree is rendered
in the same way up to the place where the first rendering ended. Whatever was written before stays as it
is, and of a block that was not rendered to its end nothing is written. -/
namespace ServerIncludes.Interruption

open Plans

def Fatal (answer : Except ResolveError α) : Prop :=
  ∃ error, answer = .error error ∧ error.isFatal = true

/-- A resolver that answers like the first one wherever that one does not fail fatally. -/
structure Outlasts (first second : Resolver) : Prop where
  content : ∀ earlier target, ¬Fatal (first.content earlier target) →
    second.content earlier target = first.content earlier target
  facts : ∀ earlier target, ¬Fatal (first.facts earlier target) →
    second.facts earlier target = first.facts earlier target

/-- A log that another one begins with. -/
structure Begins (first second : Log) : Prop where
  output : first.output <+: second.output
  faults : first.faults <+: second.faults
  calls : first.calls <+: second.calls
  lookups : first.lookups <+: second.lookups

theorem begins_refl (log : Log) : Begins log log :=
  ⟨List.prefix_refl _, List.prefix_refl _, List.prefix_refl _, List.prefix_refl _⟩

theorem begins_append_right (first later : Log) : Begins first (first ++ later) :=
  ⟨List.prefix_append _ _, List.prefix_append _ _, List.prefix_append _ _, List.prefix_append _ _⟩

theorem begins_trans (early : Begins first second) (late : Begins second third) :
    Begins first third :=
  ⟨early.output.trans late.output, early.faults.trans late.faults, early.calls.trans late.calls,
    early.lookups.trans late.lookups⟩

theorem begins_append_left (before : Log) (begins : Begins first second) :
    Begins (before ++ first) (before ++ second) :=
  ⟨(List.prefix_append_right_inj _).2 begins.output, (List.prefix_append_right_inj _).2 begins.faults,
    (List.prefix_append_right_inj _).2 begins.calls, (List.prefix_append_right_inj _).2 begins.lookups⟩

theorem begins_silent (begins : Begins first second) : Begins first.silent second.silent :=
  ⟨List.prefix_refl _, begins.faults, begins.calls, begins.lookups⟩

variable {names : List String}

/-- The first outcome is the second one, unless it ended early. -/
inductive CutShort (first second : Outcome names α) : Prop where
  | same (equal : first = second)
  | shorter (aborted : first.result = .error abort) (begins : Begins first.log second.log)

/-! ## Two resolvers -/

theorem log_begins_bind (step : Run names α) (next : α → Run names β) (state : EvalState names) :
    Begins (step state).log ((step >>= next) state).log := by
  cases ended : (step state).result with
  | error abort =>
    rw [bind_of_error ended]
    simpa using begins_append_right (step state).log .empty
  | ok value =>
    rw [bind_of_ok ended]
    exact begins_append_right _ _

theorem cut_short_bind {first second : Run names α} {next next' : α → Run names β}
    (steps : CutShort (first state) (second state))
    (later : ∀ value state, CutShort (next value state) (next' value state)) :
    CutShort ((first >>= next) state) ((second >>= next') state) := by
  cases steps with
  | same equal =>
    cases ended : (second state).result with
    | error abort =>
      rw [bind_of_error ended, bind_of_error (equal ▸ ended), equal]
      exact .same rfl
    | ok value =>
      rw [bind_of_ok ended, bind_of_ok (equal ▸ ended), equal]
      cases later value (second state).state with
      | same alike => exact .same (by simp only [alike])
      | shorter aborted begins => exact .shorter aborted (begins_append_left _ begins)
  | shorter aborted begins =>
    -- the second run may go on from here, which only adds to its log
    rw [bind_of_error aborted]
    exact .shorter rfl (begins_trans begins (log_begins_bind second next' state))

theorem cut_short_capture {first second : Run names Unit}
    (steps : CutShort (first state) (second state)) :
    CutShort (Run.capture first state) (Run.capture second state) := by
  cases steps with
  | same equal => exact .same (by simp only [Run.capture, equal])
  | shorter aborted begins =>
    rename_i abort
    have lost : (Run.capture first state).result = .error abort := by
      simp only [Run.capture, aborted]
      rfl
    exact .shorter lost (begins_silent begins)

theorem cut_short_consult (answer answer' : List ResolverCall → Except ResolveError α)
    (call : ResolverCall) (site : Site) (state : EvalState names)
    (agree : ¬Fatal (answer state.history) → answer' state.history = answer state.history) :
    CutShort (Run.consult call answer site state) (Run.consult call answer' site state) := by
  by_cases fatal : Fatal (answer state.history)
  · obtain ⟨error, failed, fatal⟩ := fatal
    have ended : Run.consult call answer site state =
        ⟨.error ⟨site, error⟩, { state with history := state.history ++ [call] },
          { Log.empty with calls := [call] }⟩ := by
      simp only [Run.consult, failed, fatal, if_true]
    have asked : [call] <+: (Run.consult call answer' site state).log.calls :=
      (consult_leaves call answer' site state).2.1 ▸ List.prefix_refl [call]
    -- a fatal answer leaves nothing but the call, which both of them made
    rw [ended]
    exact .shorter rfl ⟨List.nil_prefix, List.nil_prefix, asked, List.nil_prefix⟩
  · refine .same ?_
    simp only [Run.consult, agree fatal]

theorem cut_short_step (outlasts : Outlasts first second) (step : Step names α) (site : Site)
    (state : EvalState names) :
    CutShort (step.run first site state) (step.run second site state) := by
  cases step with
  | resolve target =>
    exact cut_short_consult (first.content · target) (second.content · target) _ site state
      (outlasts.content state.history target)
  | metadata target =>
    exact cut_short_consult (first.facts · target) (second.facts · target) _ site state
      (outlasts.facts state.history target)
  | _ => exact .same rfl

/-- Carrying out a plan with a resolver that fails fatally leaves the beginning of what is left by
carrying it out with one that does not. -/
theorem cut_short_run (outlasts : Outlasts first second) (plan : Plan names α)
    (state : EvalState names) : CutShort (plan.run first state) (plan.run second state) := by
  induction plan generalizing state with
  | done value => exact .same rfl
  | step node step next ih =>
    exact cut_short_bind (cut_short_step outlasts step (siteOf node) state) ih
  | inside name body next inner ih =>
    exact cut_short_bind (cut_short_capture (inner state)) ih

/-! ## Steps that are cut off -/

/-- A step that writes nothing. -/
def Silent (step : Run names α) : Prop := ∀ state, (step state).log.output = []

/-- A step that does not end the evaluation. -/
def Sure (step : Run names α) : Prop := ∀ state, ∃ value, (step state).result = .ok value

/-- A step that has written nothing if it ends the evaluation. -/
def Clean (step : Run names α) : Prop :=
  ∀ state abort, (step state).result = .error abort → (step state).log.output = []

theorem clean_of_silent {step : Run names α} (silent : Silent step) : Clean step :=
  fun state _ _ => silent state

theorem clean_of_sure {step : Run names α} (sure : Sure step) : Clean step := by
  intro state abort ended
  obtain ⟨value, through⟩ := sure state
  rw [through] at ended
  cases ended

theorem silent_pure (value : α) : Silent (pure value : Run names α) := fun _ => rfl

theorem silent_ask (query : Query α) : Silent (Run.ask query : Run names α) := fun _ => rfl

theorem sure_ask (query : Query α) : Sure (Run.ask query : Run names α) := fun _ => ⟨_, rfl⟩

theorem silent_consult (call : ResolverCall) (answer : List ResolverCall → Except ResolveError α)
    (site : Site) : Silent (Run.consult call answer site : Run names (Option α)) :=
  fun state => (consult_leaves call answer site state).2.2

theorem silent_bind {step : Run names α} {next : α → Run names β} (first : Silent step)
    (later : ∀ value, Silent (next value)) : Silent (step >>= next) := by
  intro state
  cases ended : (step state).result with
  | error abort =>
    rw [bind_of_error ended]
    exact first state
  | ok value =>
    rw [bind_of_ok ended]
    exact List.append_eq_nil_iff.2 ⟨first state, later value _⟩

theorem sure_bind {step : Run names α} {next : α → Run names β} (first : Sure step)
    (later : ∀ value, Sure (next value)) : Sure (step >>= next) := by
  intro state
  obtain ⟨value, ended⟩ := first state
  rw [bind_of_ok ended]
  exact later value _

theorem clean_bind {step : Run names α} {next : α → Run names β} (first : Silent step)
    (later : ∀ value, Clean (next value)) : Clean (step >>= next) := by
  intro state abort
  cases ended : (step state).result with
  | error early =>
    rw [bind_of_error ended]
    exact fun _ => first state
  | ok value =>
    rw [bind_of_ok ended]
    exact fun aborted => List.append_eq_nil_iff.2 ⟨first state, later value _ abort aborted⟩

theorem sure_emit_text (read : Context → String) :
    Sure (Run.look read >>= Run.emitText : Run names Unit) := fun _ => ⟨_, rfl⟩

theorem silent_substitute_target (target : Target Template) :
    Silent (Run.substituteTarget target : Run names (Target String)) := by
  cases target with
  | virtual path => exact silent_bind (silent_ask _) fun _ => silent_pure _
  | file path => exact silent_bind (silent_ask _) fun _ => silent_pure _

theorem sure_substitute? (template : Option Template) :
    Sure (Run.substitute? template : Run names (Option String)) := by
  cases template with
  | none => exact fun _ => ⟨_, rfl⟩
  | some template => exact sure_bind (sure_ask _) fun _ _ => ⟨_, rfl⟩

variable {resolver : Resolver}

theorem silent_fetch (site : Site) (target : Target Template) (onError : Option Template) :
    Silent (Run.fetch resolver site target onError : Run names (Option Bytes)) := by
  apply silent_bind (silent_substitute_target target)
  intro filled
  apply silent_bind (silent_consult _ _ site)
  intro fetched
  cases fetched with
  | some bytes => exact silent_pure _
  | none =>
    cases onError with
    | none => exact silent_pure _
    | some path => exact silent_bind (silent_ask _) fun _ => silent_consult _ _ site

theorem clean_describe (site : Site) (target : Target Template)
    {write : Metadata → Run names String} (writes : ∀ known, Silent (write known)) :
    Clean (Run.describe resolver site target write) := by
  apply clean_bind (silent_substitute_target target)
  intro filled
  apply clean_bind (silent_consult _ _ site)
  intro known
  cases known with
  | none => exact clean_of_sure (sure_emit_text _)
  | some metadata => exact clean_bind (writes metadata) fun _ => clean_of_sure fun _ => ⟨_, rfl⟩

/-- Rendering a block writes nothing; what calls for it writes the result. -/
theorem silent_expand (resolver : Resolver) (chain : List String) (site : Site) (name : String) :
    Silent (Run.expand resolver chain site name : Run names (Option Bytes)) := by
  rw [Run.expand]
  refine silent_bind (fun _ => rfl) fun found => ?_
  cases found with
  | none => exact silent_pure _
  | some block =>
    by_cases held : block.name ∈ chain
    · simp only [held, dif_pos]
      exact silent_bind (fun _ => rfl) fun _ => silent_pure _
    · simp only [held, dif_neg, not_false_eq_true]
      exact silent_bind (fun _ => rfl) fun _ => silent_pure _

section

variable {expand : Run.Expansion names} (silent : ∀ site name, Silent (expand site name))

include silent

theorem clean_echo (site : Site) (name : String) (encoding : Option Encoding)
    (default : Option Template) : Clean (Run.echo expand site name encoding default) := by
  apply clean_bind (silent_ask _)
  intro found
  cases found with
  | some value => exact clean_of_sure fun _ => ⟨_, rfl⟩
  | none =>
    refine clean_bind (fun _ => rfl) fun block => ?_
    split
    · apply clean_bind (silent site name)
      intro written
      cases written with
      | some bytes => exact clean_of_sure fun _ => ⟨_, rfl⟩
      | none => exact clean_of_sure (sure_emit_text _)
    · cases default with
      | some template => exact clean_of_sure fun _ => ⟨_, rfl⟩
      | none => exact clean_of_sure fun _ => ⟨_, rfl⟩

theorem silent_substitute_stub (site : Site) (content : Option Bytes) (stub : Option String) :
    Silent (Run.substituteStub expand site content stub) := by
  cases stub with
  | none => exact silent_pure _
  | some name =>
    simp only [Run.substituteStub]
    split
    · exact silent_pure _
    · refine silent_bind (fun _ => rfl) fun block => ?_
      split
      · exact silent site name
      · exact silent_bind (fun _ => rfl) fun _ => silent_pure _

/-- A leaf that is cut off has written nothing, and neither has any block that it called for. -/
theorem clean_leaf (site : Site) (content : Leaf) :
    Clean (Run.renderLeaf resolver expand site content) := by
  cases content with
  | literal bytes => exact clean_of_sure fun _ => ⟨_, rfl⟩
  | echo name encoding default => exact clean_echo silent site name encoding default
  | assign name value => exact clean_of_sure fun _ => ⟨_, rfl⟩
  | inclusion target onError store stub =>
    apply clean_bind (silent_fetch site target onError)
    intro fetched
    apply clean_bind (silent_substitute_stub silent site fetched stub)
    intro included
    cases included with
    | none => exact clean_of_sure (sure_emit_text _)
    | some bytes =>
      cases store with
      | none => exact clean_of_sure fun _ => ⟨_, rfl⟩
      | some name => exact clean_of_sure fun _ => ⟨_, rfl⟩
  | configure errorMessage missingMessage sizeFormat timeFormat =>
    apply clean_of_sure
    apply sure_bind (sure_substitute? errorMessage)
    intro _
    exact sure_bind (sure_substitute? missingMessage) fun _ _ => ⟨_, rfl⟩
  | lastModified target => exact clean_describe site target fun _ => silent_ask _
  | fileSize target => exact clean_describe site target fun _ _ => rfl
  | listVariables => exact clean_of_sure fun _ => ⟨_, rfl⟩
  | comment => exact clean_of_sure fun _ => ⟨_, rfl⟩
  | unknown name => exact clean_of_sure fun _ => ⟨_, rfl⟩

end

/-- Nodes are rendered inside the blocks of any chain. -/
theorem cut_short_render (outlasts : Outlasts first second) (chain : List String)
    (nodes : List Node) (within : Node.listBlockNames nodes ⊆ names) (state : EvalState names) :
    CutShort (Run.renderAll first (Run.expand first chain) nodes within state)
      (Run.renderAll second (Run.expand second chain) nodes within state) := by
  rw [← run_all (run_expand first chain), ← run_all (run_expand second chain)]
  exact cut_short_run outlasts (all (expand chain) nodes within) state

/-- What a step leaves in an evaluator begins what one leaves that goes on further. -/
theorem advance_cut_short (evaluator : Evaluator) {short long : Run evaluator.names α}
    (steps : CutShort (short evaluator.state) (long evaluator.state)) :
    Begins (evaluator.advance short).2.log (evaluator.advance long).2.log ∧
    ((∃ abort, (evaluator.advance short).1 = .error abort) ∨
      evaluator.advance long = evaluator.advance short) := by
  unfold Evaluator.advance
  cases steps with
  | same equal =>
    rw [equal]
    exact ⟨begins_refl _, .inr rfl⟩
  | shorter aborted begins => exact ⟨begins_append_left _ begins, .inl ⟨_, aborted⟩⟩

/-- What a rendering leaves when a fatal answer ends it is the beginning of what it leaves under a
resolver that answers in the same way wherever that answer is not fatal: output, faults and calls.
If no fatal answer ends it, both come out the same. What there was before stays as it was in any
case. All this holds inside the blocks of any chain as well; and a block that is not rendered to its
end has written nothing, and neither has the leaf that called for it. -/
theorem render_cut_short (outlasts : Outlasts first second) (evaluator : Evaluator)
    (nodes : List Node) :
    Begins (evaluator.render first nodes).2.log (evaluator.render second nodes).2.log ∧
    ((∃ abort, (evaluator.render first nodes).1 = .error abort) ∨
      evaluator.render second nodes = evaluator.render first nodes) ∧
    Begins evaluator.log (evaluator.render first nodes).2.log ∧
    ∀ names chain,
      (∀ inner within (state : EvalState names),
        CutShort (Run.renderAll first (Run.expand first chain) inner within state)
          (Run.renderAll second (Run.expand second chain) inner within state)) ∧
      ∀ site,
        (∀ name, Clean (Run.expand first chain site name : Run names (Option Bytes))) ∧
        ∀ content,
          Clean (Run.renderLeaf first (Run.expand first chain) site content : Run names Unit) := by
  obtain ⟨begins, ended⟩ := advance_cut_short (evaluator.widen (Node.listBlockNames nodes))
    (cut_short_render outlasts [] nodes (List.subset_append_right _ _) _)
  refine ⟨begins, ended, begins_append_right _ _, fun names chain => ⟨?inside, fun site => ?clean⟩⟩
  case inside => exact cut_short_render outlasts chain
  case clean =>
    constructor
    · intro name
      exact clean_of_silent (silent_expand first chain site name)
    · exact clean_leaf (silent_expand first chain) site

theorem find_put_other (entries : List (Target String × α)) (value : α) (other : asked ≠ target) :
    FileStore.find? (FileStore.put entries target value) asked = FileStore.find? entries asked := by
  unfold FileStore.find? FileStore.put
  have missed : (target == asked) = false := beq_false_of_ne (Ne.symm other)
  rw [List.find?_cons_of_neg (by simp [missed]), List.find?_filter]
  congr 2
  funext entry
  by_cases hit : entry.1 = asked
  · simp [hit, other]
  · simp [hit]

theorem file_answers (store : FileStore) (target : Target String) (message : String)
    (read : StoredFile → α) (asked : Target String)
    (mild : ¬Fatal (((store.fail target (.fatal message)).file asked).map read)) :
    (store.file asked).map read = ((store.fail target (.fatal message)).file asked).map read := by
  by_cases hit : asked = target
  · subst hit
    have failed : (store.fail asked (.fatal message)).file asked = .error (.fatal message) := by
      simp [FileStore.file, FileStore.fail, FileStore.find?, FileStore.put]
    exact absurd ⟨_, congrArg (Except.map read) failed, rfl⟩ mild
  · have same : (store.fail target (.fatal message)).file asked = store.file asked := by
      simp only [FileStore.file, FileStore.fail, find_put_other _ _ hit]
    rw [same]

/-- Without a failure that is fatal, a store answers in the same way except where that one showed. -/
theorem outlasts_fail (store : FileStore) (target : Target String) (message : String) :
    Outlasts (store.fail target (.fatal message)).resolver store.resolver where
  content _ asked := file_answers store target message _ asked
  facts _ asked := file_answers store target message _ asked

/-- A block whose second part fails fatally. Of its first part nothing is written then. -/
theorem render_cut_short_in_block :
    let store := FileStore.empty.insert (.virtual "part") ⟨[121], ⟨0, 0⟩⟩
    let failing := store.fail (.virtual "part") (.fatal "off")
    let nodes := [.block ⟨0, 50⟩ "b" [.leaf ⟨20, 21⟩ (.literal [120]),
        .leaf ⟨21, 40⟩ (.inclusion (.virtual ⟨[.text "part"]⟩) none none none)],
      .leaf ⟨50, 51⟩ (.literal [32]), .leaf ⟨51, 60⟩ (.echo "b" none none)]
    let evaluator : Evaluator :=
      ⟨[], ⟨Context.ofSettings .standard, [], []⟩, { Log.empty with output := [97] }⟩
    let short := evaluator.render failing.resolver nodes
    let long := evaluator.render store.resolver nodes
    short.1 = .error ⟨⟨21, "include"⟩, .fatal "off"⟩ ∧ short.2.log.output = [97, 32] ∧
      long.1 = .ok () ∧ long.2.log.output = [97, 32, 120, 121] ∧
      Begins short.2.log long.2.log ∧ Begins evaluator.log short.2.log := by
  intro store failing nodes evaluator short long
  have cut := render_cut_short (outlasts_fail store (.virtual "part") "off") evaluator nodes
  -- one block at a time is rendered, so that the depth left to others can be anything
  have within (resolver : Resolver) : evaluator.render resolver nodes =
      Termination.renderWithin resolver (fun _ _ _ => pure none) 1 evaluator nodes :=
    (Termination.render_within_eq_render _ _ _ _ (by decide)).symm
  have ends : short.1 = .error ⟨⟨21, "include"⟩, .fatal "off"⟩ ∧ short.2.log.output = [97, 32] ∧
      long.1 = .ok () ∧ long.2.log.output = [97, 32, 120, 121] := by
    simp only [short, long, within]
    decide +kernel
  exact ⟨ends.1, ends.2.1, ends.2.2.1, ends.2.2.2, cut.1, cut.2.2.1⟩

end ServerIncludes.Interruption
