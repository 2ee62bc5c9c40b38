import ServerIncludes.Document.Directive

/-!
Assembling a document's tree from its fragments. Conditionals and blocks that are still open wait on
a stack; every other fragment goes to where the innermost of them is being filled, or to the top.
-/

namespace ServerIncludes

/-- A construct that has been opened and not yet closed. -/
inductive Frame where
  /-- The branches of a conditional: the first, those after it with the newest first, and the last
  one, which has no condition. Nodes go to the branch opened last. -/
  | conditional (opener : Span) (condition : Condition) (body : List Node)
      (elifs : List (Condition × List Node)) (last : Option (List Node))
  | block (opener : Span) (name : String) (body : List Node)

namespace Frame

def kind : Frame → FrameKind
  | conditional _ _ _ _ _ => .conditional
  | block _ _ _ => .block

/-- The span of the tag that opened the construct. -/
def opener : Frame → Span
  | conditional opener _ _ _ _ => opener
  | block opener _ _ => opener

/-- Adds a node to the branch or block that is being filled. -/
def push (node : Node) : Frame → Frame
  | conditional opener condition body elifs (some last) =>
    conditional opener condition body elifs (some (last ++ [node]))
  | conditional opener condition body ((test, newest) :: earlier) none =>
    conditional opener condition body ((test, newest ++ [node]) :: earlier) none
  | conditional opener condition body [] none =>
    conditional opener condition (body ++ [node]) [] none
  | block opener name body => block opener name (body ++ [node])

end Frame

/-- A tree that is being assembled. Frames are listed with the innermost first. -/
structure Assembly where
  root : List Node
  frames : List Frame

namespace Assembly

def empty : Assembly := ⟨[], []⟩

/-- Adds a node where nodes are being added. -/
def push (node : Node) (assembly : Assembly) : Assembly :=
  match assembly.frames with
  | [] => { assembly with root := assembly.root ++ [node] }
  | frame :: outer => { assembly with frames := frame.push node :: outer }

/-- The fault of a directive that cannot stand where it does because a frame of the kind it expects
is not the innermost one. -/
def misplaced (assembly : Assembly) (directive : String) (expected : FrameKind) : ParseFault :=
  match assembly.frames with
  | [] => .unmatched directive expected
  | frame :: _ => .mismatched directive frame.kind frame.opener.start

/-- Fails unless a conditional is innermost whose last branch has not been opened. -/
def checkBranch (assembly : Assembly) (directive : String) : Except ParseFault Unit :=
  match assembly.frames with
  | .conditional _ _ _ _ none :: _ => .ok ()
  | .conditional opener _ _ _ (some _) :: _ => .error (.afterElse directive opener.start)
  | _ => .error (assembly.misplaced directive .conditional)

/-- Adds what a tag stands for. -/
def apply (assembly : Assembly) (span : Span) : Directive → Except ParseFault Assembly
  | .leaf content => .ok (assembly.push (.leaf span content))
  | .startIf condition =>
    .ok { assembly with frames := .conditional span condition [] [] none :: assembly.frames }
  | .startBlock name => .ok { assembly with frames := .block span name [] :: assembly.frames }
  | .elif test => do
    assembly.checkBranch "elif"
    match assembly.frames with
    | .conditional opener condition body elifs none :: outer =>
      pure { assembly with
        frames := .conditional opener condition body ((test, []) :: elifs) none :: outer }
    | _ => pure assembly
  | .otherwise => do
    assembly.checkBranch "else"
    match assembly.frames with
    | .conditional opener condition body elifs none :: outer =>
      pure { assembly with frames := .conditional opener condition body elifs (some []) :: outer }
    | _ => pure assembly
  | .endIf =>
    match assembly.frames with
    | .conditional opener condition body elifs last :: outer =>
      .ok (push (.conditional ⟨opener.start, span.stop⟩ condition body
        (Branches.ofList elifs.reverse last)) { assembly with frames := outer })
    | _ => .error (assembly.misplaced "endif" .conditional)
  | .endBlock =>
    match assembly.frames with
    | .block opener name body :: outer =>
      .ok (push (.block ⟨opener.start, span.stop⟩ name body) { assembly with frames := outer })
    | _ => .error (assembly.misplaced "endblock" .block)

/-- Adds a tag. Whether an `elif` may stand where it does is settled before its attributes are
looked at. -/
def takeTag (policy : AttributePolicy) (assembly : Assembly) (span : Span) (body : Bytes) :
    Except ParseFault Assembly := do
  let tag ← Tag.ofBody body
  if tag.name = "elif" then assembly.checkBranch "elif"
  let directive ← Directive.ofTag policy tag
  assembly.apply span directive

/-- Adds a fragment of the document. -/
def take (policy : AttributePolicy) (assembly : Assembly) (placed : Span × Fragment) :
    Except ParseError Assembly :=
  match placed.2 with
  | .literal bytes => .ok (assembly.push (.leaf placed.1 (.literal bytes)))
  | .tag body =>
    (takeTag policy assembly placed.1 body).mapError fun fault => ⟨placed.1.start, fault⟩

/-- The tree, if nothing is left open. -/
def finish (assembly : Assembly) : Except ParseError (List Node) :=
  match assembly.frames with
  | [] => .ok assembly.root
  | frame :: _ => .error ⟨frame.opener.start, .unclosed frame.kind⟩

end Assembly

namespace Document

/-- Reads a document. -/
def parse (policy : AttributePolicy) (document : Bytes) : Except ParseError (List Node) := do
  let fragments := Fragments.scan document
  let assembly ← fragments.placed.foldlM (Assembly.take policy) Assembly.empty
  match fragments.unterminated? with
  | some offset => .error ⟨offset, .unterminated⟩
  | none => assembly.finish

end Document

end ServerIncludes
