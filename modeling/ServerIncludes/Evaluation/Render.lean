import ServerIncludes.Evaluation.Run

/-!
Rendering trees. Blocks are rendered where they are called for, however they call for each other,
except inside themselves: the chain of blocks being rendered never holds a name twice, so it is no
longer than the list of names there are.
-/

namespace ServerIncludes

namespace Run

variable {names : List String}

/-- Fills in a template. -/
def substitute (template : Template) : Run names String := ask (Query.substitute template)

/-- Fills in the path of a target. -/
def substituteTarget : Target Template → Run names (Target String)
  | .virtual path => do return .virtual (← substitute path)
  | .file path => do return .file (← substitute path)

/-- Fills in a template, if there is one. -/
def substitute? : Option Template → Run names (Option String)
  | none => pure none
  | some template => do return some (← substitute template)

def emitText (text : String) : Run names Unit := emit (Bytes.ofText text)

/-- Writes the message for what could not be had. -/
def emitErrorMessage : Run names Unit := do
  emitText (← look (·.settings.errorMessage))

/-- Rendering of the block of a name, which gives its output; nothing if there is no such block or
it is being rendered already. -/
abbrev Expansion (names : List String) : Type := Site → String → Run names (Option Bytes)

/-- Writes a variable. A block of its name stands in for a missing value, then the default. -/
def echo (expand : Expansion names) (site : Site) (name : String) (encoding : Option Encoding)
    (default : Option Template) : Run names Unit := do
  match ← ask (Query.get? name) with
  | some value =>
    let encoding := encoding.getD (← look (·.settings.encoding))
    emitText (encoding.encode value)
  | none =>
    if (← block? name).isSome then
      match ← expand site name with
      | some bytes => emit bytes
      | none => emitErrorMessage
    else
      match default with
      | some template => emitText (← substitute template)
      | none =>
        emitText (← look (·.settings.missingMessage))
        record site (.undefinedVariable name)

/-- The content of a target or, failing that, of the path to go to on errors. -/
def fetch (resolver : Resolver) (site : Site) (target : Target Template)
    (onError : Option Template) : Run names (Option Bytes) := do
  match ← resolve resolver site (← substituteTarget target) with
  | some bytes => return some bytes
  | none =>
    match onError with
    | none => return none
    | some path => resolve resolver site (.virtual (← substitute path))

/-- The block that takes the place of content that is missing or empty. If there is no such block,
the content stays what it is. -/
def substituteStub (expand : Expansion names) (site : Site) (content : Option Bytes)
    (stub : Option String) : Run names (Option Bytes) := do
  match stub with
  | none => return content
  | some name =>
    if content.any fun bytes => !bytes.isEmpty then return content
    else if (← block? name).isSome then expand site name
    else
      record site (.unknownBlock name)
      return content

/-- Includes a target: its content is stored under a name, or else written. -/
def inclusion (resolver : Resolver) (expand : Expansion names) (site : Site)
    (target : Target Template) (onError : Option Template) (store stub : Option String) :
    Run names Unit := do
  let fetched ← fetch resolver site target onError
  match ← substituteStub expand site fetched stub with
  | none => emitErrorMessage
  | some bytes =>
    match store with
    | some name => change (·.set name (Bytes.textLossy bytes))
    | none => emit bytes

/-- Changes the settings that are given. -/
def configure (errorMessage missingMessage : Option Template) (sizeFormat : Option SizeFormat)
    (timeFormat : Option String) : Run names Unit := do
  let errorMessage ← substitute? errorMessage
  let missingMessage ← substitute? missingMessage
  change fun context =>
    let settings := context.settings
    { context with settings :=
      { settings with
        errorMessage := errorMessage.getD settings.errorMessage
        missingMessage := missingMessage.getD settings.missingMessage
        sizeFormat := sizeFormat.getD settings.sizeFormat
        timeFormat := timeFormat.getD settings.timeFormat } }

/-- Writes something of what is known about a target. -/
def describe (resolver : Resolver) (site : Site) (target : Target Template)
    (write : Metadata → Run names String) : Run names Unit := do
  match ← metadata resolver site (← substituteTarget target) with
  | some known => emitText (← write known)
  | none => emitErrorMessage

/-- The time of the last change, in universal time and in the format that is set. -/
def writeModified (known : Metadata) : Run names String :=
  ask (Query.writeTime .universal known.modified)

/-- The size in the format that is set. -/
def writeSize (known : Metadata) : Run names String := do
  return (← look (·.settings)).sizeFormat.format known.size

/-- All variables, a line for each. -/
def listing (bindings : Variables) : String :=
  String.join (bindings.entries.map fun (name, value) =>
    Encoding.entity.encode name ++ "=" ++ Encoding.entity.encode value ++ "\n")

/-- Renders text or a directive that holds no others. -/
def renderLeaf (resolver : Resolver) (expand : Expansion names) (site : Site) :
    Leaf → Run names Unit
  | .literal bytes => emit bytes
  | .echo name encoding default => echo expand site name encoding default
  | .assign name value => do
    let text ← substitute value
    change (·.set name text)
  | .inclusion target onError store stub =>
    inclusion resolver expand site target onError store stub
  | .configure errorMessage missingMessage sizeFormat timeFormat =>
    configure errorMessage missingMessage sizeFormat timeFormat
  | .lastModified target => describe resolver site target writeModified
  | .fileSize target => describe resolver site target writeSize
  | .listVariables => do emitText (← look fun context => listing context.bindings)
  | .comment => pure ()
  | .unknown _ => pure ()

/-- The number of names that a chain of blocks leaves free. -/
def free (names chain : List String) : Nat := names.countP fun name => name ∉ chain

theorem countP_lt_countP {p q : String → Bool} {list : List String} {name : String}
    (fewer : ∀ other, p other → q other) (member : name ∈ list) (gone : p name = false)
    (held : q name = true) : list.countP p < list.countP q := by
  induction list with
  | nil => cases member
  | cons first rest ih =>
    have monotone : rest.countP p ≤ rest.countP q :=
      List.countP_mono_left fun other _ => fewer other
    simp only [List.countP_cons]
    rcases List.mem_cons.1 member with same | later
    · subst same
      simp only [gone, held, if_true, Bool.false_eq_true, if_false]
      omega
    · have := ih later
      have head : (if p first then 1 else 0) ≤ (if q first then 1 else 0) := by
        by_cases isHeld : p first
        · simp [isHeld, fewer first isHeld]
        · simp [isHeld]
      omega

/-- A block that is not being rendered leaves fewer names free once it is. -/
theorem free_cons_lt {chain : List String} {name : String} (member : name ∈ names)
    (fresh : name ∉ chain) : free names (name :: chain) < free names chain :=
  countP_lt_countP (fun other => by simp) member
    (by simp) (by simpa using fresh)

variable (resolver : Resolver)

mutual

/-- Renders nodes in order, and the blocks that they call for by an expansion. -/
def renderAll (expand : Expansion names) :
    (nodes : List Node) → Node.listBlockNames nodes ⊆ names → Run names Unit
  | [], _ => pure ()
  | node :: rest, within => do
    renderNode expand node (List.append_subset.1 within).1
    renderAll expand rest (List.append_subset.1 within).2

/-- Renders a node. A block is not rendered but defined. -/
def renderNode (expand : Expansion names) : (node : Node) → node.blockNames ⊆ names → Run names Unit
  | .leaf span content, _ => renderLeaf resolver expand ⟨span.start, content.directive⟩ content
  | .conditional _ condition body rest, within => do
    if ← ask condition.truth then renderAll expand body (List.append_subset.1 within).1
    else renderBranches expand rest (List.append_subset.1 within).2
  | .block _ name body, within =>
    define ⟨name, body, (List.cons_subset.1 within).1, (List.cons_subset.1 within).2⟩

/-- Renders the first of some branches whose condition holds. -/
def renderBranches (expand : Expansion names) :
    (branches : Branches) → branches.blockNames ⊆ names → Run names Unit
  | .done, _ => pure ()
  | .otherwise body, within => renderAll expand body within
  | .elif condition body rest, within => do
    if ← ask condition.truth then renderAll expand body (List.append_subset.1 within).1
    else renderBranches expand rest (List.append_subset.1 within).2

end

/-- Renders the block of a name inside the blocks of a chain, innermost first. A block of the chain is
not rendered again. -/
def expand (chain : List String) : Expansion names := fun site name => do
  match ← block? name with
  | none => return none
  | some block =>
    if held : block.name ∈ chain then
      record site (.recursiveBlock name)
      return none
    else
      have : free names (block.name :: chain) < free names chain :=
        free_cons_lt block.name_mem held
      let bytes ← capture
        (renderAll resolver (expand (block.name :: chain)) block.body block.body_names)
      return some bytes
termination_by free names chain
decreasing_by exact this

end Run

end ServerIncludes
