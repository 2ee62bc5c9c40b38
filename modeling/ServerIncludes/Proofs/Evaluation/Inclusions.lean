import ServerIncludes.Proofs.Evaluation.Expanding

/-! What an inclusion does, as rules. It asks for its target and, if that fails, for the path to go to
on errors; a stub takes the place of content that is missing or empty; and what there is in the end
is stored, written, or replaced by a message. Each of the three parts has its rules, one for each way
in which it can go, and an inclusion has an outcome exactly if the rules give it. -/
namespace ServerIncludes.Inclusions

open Expanding (name_of_block?)
open Plans (bind_assoc bind_of_error bind_of_ok bind_pure)

/-- What an inclusion asks for, one after another until something is given. -/
def candidates (target : Target Template) (onError : Option Template) : List (Target Template) :=
  target :: (onError.map .virtual).toList

/-- The question for a target, filled in. -/
def question (context : Context) (target : Target Template) : ResolverCall :=
  .resolve (target.map context.substitute)

section

variable {names : List String}

/-- The state behind a question. -/
def afterAsking (state : EvalState names) (target : Target Template) : EvalState names :=
  { state with history := state.history ++ [question state.context target] }

/-- What a question leaves in the log, with the fault that its answer is recorded as. -/
def asking (context : Context) (target : Target Template) (faults : List Fault) : Log :=
  ⟨[], faults, [question context target], context.askedBy target.path⟩

variable (resolver : Resolver) (site : Site)

/-- What a resolver answers to the question for a target. -/
def answer (state : EvalState names) (target : Target Template) : Except ResolveError Bytes :=
  resolver.content state.history (target.map state.context.substitute)

/-- Asking for targets one after another. The first content that is given ends it, and a fatal answer
ends the evaluation; after any other failure, which is recorded, the next target is asked for. -/
inductive Asks : EvalState names → List (Target Template) → Outcome names (Option Bytes) →
    Prop where
  | exhausted : Asks state [] ⟨.ok none, state, .empty⟩
  | given (content : answer resolver state target = .ok bytes) :
    Asks state (target :: rest)
      ⟨.ok (some bytes), afterAsking state target, asking state.context target []⟩
  | fatal (failure : answer resolver state target = .error error) (grave : error.isFatal = true) :
    Asks state (target :: rest)
      ⟨.error ⟨site, error⟩, afterAsking state target, asking state.context target []⟩
  | failed (failure : answer resolver state target = .error error) (mild : error.isFatal = false)
      (later : Asks (afterAsking state target) rest ⟨result, after, log⟩) :
    Asks state (target :: rest)
      ⟨result, after, asking state.context target [⟨site, .unresolved error⟩] ++ log⟩

/-- There is no content, or it is empty. -/
def Wanting (content : Option Bytes) : Prop := content.getD [] = []

instance (content : Option Bytes) : Decidable (Wanting content) :=
  inferInstanceAs (Decidable (_ = _))

/-- A stub in the place of content, inside the blocks of a chain. -/
inductive Replaces (chain : List String) (state : EvalState names) (content : Option Bytes) :
    Option String → Outcome names (Option Bytes) → Prop where
  | unasked : Replaces chain state content none ⟨.ok content, state, .empty⟩
  | unneeded (there : ¬ Wanting content) :
    Replaces chain state content (some name) ⟨.ok content, state, .empty⟩
  | undefined (wanting : Wanting content) (unknown : state.block? name = none) :
    Replaces chain state content (some name)
      ⟨.ok content, state, { Log.empty with faults := [⟨site, .unknownBlock name⟩] }⟩
  | recursive (wanting : Wanting content) (defined : state.block? name = some block)
      (inside : name ∈ chain) :
    Replaces chain state content (some name)
      ⟨.ok none, state, { Log.empty with faults := [⟨site, .recursiveBlock name⟩] }⟩
  | rendered (wanting : Wanting content) (defined : state.block? name = some block)
      (outside : name ∉ chain)
      (body : Run.renderAll resolver (Run.expand resolver (name :: chain)) block.body
        block.body_names state = ⟨.ok (), after, log⟩) :
    Replaces chain state content (some name) ⟨.ok (some log.output), after, log.silent⟩
  | aborted (wanting : Wanting content) (defined : state.block? name = some block)
      (outside : name ∉ chain)
      (body : Run.renderAll resolver (Run.expand resolver (name :: chain)) block.body
        block.body_names state = ⟨.error abort, after, log⟩) :
    Replaces chain state content (some name) ⟨.error abort, after, log.silent⟩

/-- What is done with content in the end. The message for none is the one in force by then. -/
inductive Delivers (state : EvalState names) :
    Option Bytes → Option String → Outcome names Unit → Prop where
  | stored : Delivers state (some bytes) (some name)
      ⟨.ok (), { state with context := state.context.set name (Bytes.textLossy bytes) }, .empty⟩
  | written : Delivers state (some bytes) none ⟨.ok (), state, { Log.empty with output := bytes }⟩
  | missing : Delivers state none store
      ⟨.ok (), state,
        { Log.empty with output := Bytes.ofText state.context.settings.errorMessage }⟩

/-- An inclusion inside the blocks of a chain. -/
inductive Includes (chain : List String) (target : Target Template) (onError : Option Template)
    (store stub : Option String) (state : EvalState names) : Outcome names Unit → Prop where
  | refused
      (asks : Asks resolver site state (candidates target onError) ⟨.error abort, after, log⟩) :
    Includes chain target onError store stub state ⟨.error abort, after, log⟩
  | broken
      (asks : Asks resolver site state (candidates target onError) ⟨.ok content, asked, first⟩)
      (replaces : Replaces resolver site chain asked content stub ⟨.error abort, after, second⟩) :
    Includes chain target onError store stub state ⟨.error abort, after, first ++ second⟩
  | included
      (asks : Asks resolver site state (candidates target onError) ⟨.ok content, asked, first⟩)
      (replaces : Replaces resolver site chain asked content stub ⟨.ok kept, replaced, second⟩)
      (delivers : Delivers replaced kept store ⟨result, after, third⟩) :
    Includes chain target onError store stub state ⟨result, after, first ++ second ++ third⟩

end

/-! ## Asking -/

section

variable {names : List String} {resolver : Resolver} {site : Site}

/-- Asks for a target, filled in. -/
def ask (resolver : Resolver) (site : Site) (target : Target Template) :
    Run names (Option Bytes) := do
  Run.resolve resolver site (← Run.substituteTarget target)

/-- Asks for targets until something is given. -/
def askAll (resolver : Resolver) (site : Site) : List (Target Template) → Run names (Option Bytes)
  | [] => pure none
  | target :: rest => do
    match ← ask resolver site target with
    | some bytes => return some bytes
    | none => askAll resolver site rest

theorem substitute_target_eq (target : Target Template) (state : EvalState names) :
    (Run.substituteTarget target : Run names (Target String)) state =
      ⟨.ok (target.map state.context.substitute), state,
        { Log.empty with lookups := state.context.askedBy target.path }⟩ := by
  cases target with
  | virtual path =>
    rw [Run.substituteTarget, bind_of_ok rfl]
    exact congrArg (Outcome.mk _ _) (Log.append_empty _)
  | file path =>
    rw [Run.substituteTarget, bind_of_ok rfl]
    exact congrArg (Outcome.mk _ _) (Log.append_empty _)

theorem ask_of_ok (site : Site) (content : answer resolver state target = .ok bytes) :
    ask resolver site target state =
      ⟨.ok (some bytes), afterAsking state target, asking state.context target []⟩ := by
  have filled := substitute_target_eq target state
  unfold answer at content
  rw [ask, bind_of_ok (congrArg Outcome.result filled), filled]
  simp only [Run.resolve, Run.consult, content]
  simp [Log.append_def, Log.append, Log.empty, afterAsking, asking, question]

theorem ask_of_error (site : Site) (failure : answer resolver state target = .error error) :
    ask resolver site target state =
      if error.isFatal then
        ⟨.error ⟨site, error⟩, afterAsking state target, asking state.context target []⟩
      else ⟨.ok none, afterAsking state target,
        asking state.context target [⟨site, .unresolved error⟩]⟩ := by
  have filled := substitute_target_eq target state
  unfold answer at failure
  rw [ask, bind_of_ok (congrArg Outcome.result filled), filled]
  simp only [Run.resolve, Run.consult, failure]
  by_cases grave : error.isFatal <;>
    simp [grave, Log.append_def, Log.append, Log.empty, afterAsking, asking, question]

theorem ask_all_cons (target : Target Template) (rest : List (Target Template))
    (state : EvalState names) :
    askAll resolver site (target :: rest) state = match answer resolver state target with
      | .ok bytes =>
        ⟨.ok (some bytes), afterAsking state target, asking state.context target []⟩
      | .error error =>
        if error.isFatal then
          ⟨.error ⟨site, error⟩, afterAsking state target, asking state.context target []⟩
        else
          let later := askAll resolver site rest (afterAsking state target)
          ⟨later.result, later.state,
            asking state.context target [⟨site, .unresolved error⟩] ++ later.log⟩ := by
  rw [askAll]
  cases answered : answer resolver state target with
  | ok bytes =>
    have asked := ask_of_ok site answered
    rw [bind_of_ok (congrArg Outcome.result asked), asked]
    exact congrArg (Outcome.mk _ _) (Log.append_empty _)
  | error error =>
    have asked := ask_of_error site answered
    by_cases grave : error.isFatal
    · rw [if_pos grave] at asked
      rw [bind_of_error (congrArg Outcome.result asked), asked]
      exact (if_pos grave).symm
    · rw [if_neg grave] at asked
      rw [bind_of_ok (congrArg Outcome.result asked), asked]
      exact (if_neg grave).symm

theorem asks_ask_all (targets : List (Target Template)) (state : EvalState names) :
    Asks resolver site state targets (askAll resolver site targets state) := by
  induction targets generalizing state with
  | nil => exact .exhausted
  | cons target rest ih =>
    rw [ask_all_cons]
    cases answered : answer resolver state target with
    | ok bytes => exact .given answered
    | error error =>
      simp only
      split
      · rename_i grave
        exact .fatal answered grave
      · rename_i mild
        exact .failed answered (by simpa using mild) (ih _)

theorem ask_all_of_asks (asks : Asks resolver site state targets outcome) :
    askAll resolver site targets state = outcome := by
  induction asks with
  | exhausted => rfl
  | given content => rw [ask_all_cons, content]
  | fatal failure grave => simp only [ask_all_cons, failure, grave, if_true]
  | failed failure mild later ih =>
    simp only [ask_all_cons, failure, mild, ih, Bool.false_eq_true, if_false]

/-- An inclusion asks for its candidates. -/
theorem fetch_eq (target : Target Template) (onError : Option Template) :
    (Run.fetch resolver site target onError : Run names (Option Bytes)) =
      askAll resolver site (candidates target onError) := by
  rw [candidates, askAll, ask, bind_assoc]
  refine bind_congr fun filled => bind_congr fun content => ?_
  cases content with
  | some bytes => rfl
  | none =>
    cases onError with
    | none => rfl
    | some path =>
      have last : askAll resolver site [.virtual path] =
          (ask resolver site (.virtual path) : Run names (Option Bytes)) := by
        rw [askAll]
        conv => rhs; rw [← bind_pure (ask resolver site (.virtual path))]
        refine bind_congr fun content => ?_
        cases content <;> rfl
      show _ = askAll resolver site [.virtual path]
      rw [last, ask, Run.substituteTarget, bind_assoc]
      rfl

/-! ## Replacing and delivering -/

/-- Looking for a block changes nothing. -/
theorem block_bind (found : state.block? name = block)
    (next : Option (DefinedBlock names) → Run names α) :
    (Run.block? name >>= next) state = next block state := by
  have sought : (Run.block? name state).result = .ok block := congrArg Except.ok found
  rw [bind_of_ok sought]
  rfl

/-- What a body has written is its rendering, and does not become output. -/
theorem capture_some_eq (body : Run names Unit) (state : EvalState names) :
    (Run.capture body >>= fun bytes => pure (some bytes)) state =
      ⟨(body state).result.map fun _ => some (body state).log.output, (body state).state,
        (body state).log.silent⟩ := by
  cases ended : (body state).result with
  | ok value =>
    have captured : (Run.capture body state).result = .ok (body state).log.output :=
      congrArg (Except.map _) ended
    rw [bind_of_ok captured]
    exact congrArg (Outcome.mk _ _) (Log.append_empty _)
  | error abort =>
    have captured : (Run.capture body state).result = .error abort := congrArg (Except.map _) ended
    rw [bind_of_error captured]
    rfl

/-- The rendering of a block that is defined is told by that of its body, unless the block is being
rendered already. -/
theorem expand_of_defined {state : EvalState names} (chain : List String)
    (defined : state.block? name = some block) :
    Run.expand resolver chain site name state =
      if name ∈ chain then
        ⟨.ok none, state, { Log.empty with faults := [⟨site, .recursiveBlock name⟩] }⟩
      else
        let body := Run.renderAll resolver (Run.expand resolver (name :: chain)) block.body
          block.body_names state
        ⟨body.result.map fun _ => some body.log.output, body.state, body.log.silent⟩ := by
  obtain rfl := name_of_block? defined
  rw [Run.expand, block_bind defined]
  by_cases inside : block.name ∈ chain
  · simp only [inside, if_true, dif_pos]
    rfl
  · simp only [inside, if_false, dif_neg, not_false_eq_true]
    exact capture_some_eq _ state

/-- A stub plays a part only if there is no content or it is empty. -/
theorem substitute_stub_eq (chain : List String) (state : EvalState names) (content : Option Bytes)
    (name : String) :
    Run.substituteStub (Run.expand resolver chain) site content (some name) state =
      if Wanting content then
        match state.block? name with
        | none => ⟨.ok content, state, { Log.empty with faults := [⟨site, .unknownBlock name⟩] }⟩
        | some _ => Run.expand resolver chain site name state
      else ⟨.ok content, state, .empty⟩ := by
  have there : (content.any fun bytes => !bytes.isEmpty) = true ↔ ¬ Wanting content := by
    cases content <;> simp [Wanting]
  simp only [Run.substituteStub]
  by_cases wanting : Wanting content
  · rw [if_neg fun full => there.1 full wanting, if_pos wanting]
    cases found : state.block? name with
    | none =>
      rw [block_bind found]
      rfl
    | some block =>
      rw [block_bind found]
      rfl
  · rw [if_pos (there.2 wanting), if_neg wanting]
    rfl

theorem replaces_stub (chain : List String) (state : EvalState names) (content : Option Bytes)
    (stub : Option String) : Replaces resolver site chain state content stub
      (Run.substituteStub (Run.expand resolver chain) site content stub state) := by
  cases stub with
  | none => exact .unasked
  | some name =>
    rw [substitute_stub_eq]
    split
    · rename_i wanting
      cases found : state.block? name with
      | none => exact .undefined wanting found
      | some block =>
        simp only [expand_of_defined chain found]
        split
        · rename_i inside
          exact .recursive wanting found inside
        · rename_i outside
          cases ended : (Run.renderAll resolver (Run.expand resolver (name :: chain)) block.body
            block.body_names state).result with
          | ok value => exact .rendered wanting found outside (by rw [← ended])
          | error abort => exact .aborted wanting found outside (by rw [← ended])
    · rename_i there
      exact .unneeded there

theorem substitute_stub_of_replaces
    (replaces : Replaces resolver site chain state content stub outcome) :
    Run.substituteStub (Run.expand resolver chain) site content stub state = outcome := by
  cases replaces with
  | unasked => rfl
  | unneeded there => rw [substitute_stub_eq, if_neg there]
  | undefined wanting unknown => simp only [substitute_stub_eq, wanting, unknown, if_true]
  | recursive wanting defined inside =>
    simp only [substitute_stub_eq, expand_of_defined chain defined, wanting, defined, inside,
      if_true]
  | rendered wanting defined outside body =>
    simp only [substitute_stub_eq, expand_of_defined chain defined, wanting, defined, outside, body,
      if_true, if_false]
    rfl
  | aborted wanting defined outside body =>
    simp only [substitute_stub_eq, expand_of_defined chain defined, wanting, defined, outside, body,
      if_true, if_false]
    rfl

/-- Stores content, writes it, or writes that there is none. -/
def deliver (store : Option String) : Option Bytes → Run names Unit
  | none => Run.emitErrorMessage
  | some bytes =>
    match store with
    | some name => Run.change (·.set name (Bytes.textLossy bytes))
    | none => Run.emit bytes

theorem delivers_iff :
    deliver store content state = outcome ↔ Delivers state content store outcome := by
  constructor
  · rintro rfl
    cases content with
    | none => exact .missing
    | some bytes =>
      cases store with
      | none => exact .written
      | some name => exact .stored
  · intro delivers
    cases delivers <;> rfl

end

/-! ## Inclusions -/

section

variable {names : List String} {resolver : Resolver} {site : Site}

theorem inclusion_eq (expand : Run.Expansion names) (target : Target Template)
    (onError : Option Template) (store stub : Option String) :
    Run.inclusion resolver expand site target onError store stub =
      askAll resolver site (candidates target onError) >>= fun content =>
        Run.substituteStub expand site content stub >>= deliver store := by
  rw [← fetch_eq]
  rfl

theorem includes_inclusion (chain : List String) (target : Target Template)
    (onError : Option Template) (store stub : Option String) (state : EvalState names) :
    Includes resolver site chain target onError store stub state
      (Run.inclusion resolver (Run.expand resolver chain) site target onError store stub state) := by
  have asks : Asks resolver site state (candidates target onError) _ := asks_ask_all _ state
  rw [inclusion_eq]
  cases asked : askAll resolver site (candidates target onError) state with
  | mk result middle first =>
    rw [asked] at asks
    cases result with
    | error abort =>
      rw [bind_of_error (congrArg Outcome.result asked), asked]
      exact .refused asks
    | ok content =>
      have replaces : Replaces resolver site chain middle content stub _ := replaces_stub _ _ _ _
      rw [bind_of_ok (congrArg Outcome.result asked), asked]
      cases replaced : Run.substituteStub (Run.expand resolver chain) site content stub middle with
      | mk result later second =>
        rw [replaced] at replaces
        cases result with
        | error abort =>
          rw [bind_of_error (congrArg Outcome.result replaced), replaced]
          exact .broken asks replaces
        | ok kept =>
          rw [bind_of_ok (congrArg Outcome.result replaced), replaced]
          have delivers : Delivers later kept store (deliver store kept later) := delivers_iff.1 rfl
          show Includes resolver site chain target onError store stub state
            ⟨_, _, first ++ (second ++ _)⟩
          rw [← Log.append_assoc]
          exact .included asks replaces delivers

theorem inclusion_of_includes
    (includes : Includes resolver site chain target onError store stub state outcome) :
    Run.inclusion resolver (Run.expand resolver chain) site target onError store stub state =
      outcome := by
  rw [inclusion_eq]
  cases includes with
  | refused asks =>
    have asked := ask_all_of_asks asks
    rw [bind_of_error (congrArg Outcome.result asked), asked]
  | broken asks replaces =>
    have asked := ask_all_of_asks asks
    have replaced := substitute_stub_of_replaces replaces
    rw [bind_of_ok (congrArg Outcome.result asked), asked,
      bind_of_error (congrArg Outcome.result replaced), replaced]
  | included asks replaces delivers =>
    have asked := ask_all_of_asks asks
    have replaced := substitute_stub_of_replaces replaces
    rw [bind_of_ok (congrArg Outcome.result asked), asked,
      bind_of_ok (congrArg Outcome.result replaced), replaced, delivers_iff.2 delivers]
    exact congrArg (Outcome.mk _ _) (Log.append_assoc _ _ _).symm

end

end ServerIncludes.Inclusions
