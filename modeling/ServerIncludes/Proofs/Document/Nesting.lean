import Mathlib.Data.List.Forall2
import ServerIncludes.Document.Assembly
import ServerIncludes.Proofs.Parts

/-! Assembling accepts exactly the documents whose tags nest, and builds the tree of that nesting.
Nesting is a grammar on what fragments stand for one by one; it knows neither frames nor branches
that are being filled. Where tags do not nest, the error is that of the first one after which no
continuation would. -/
namespace ServerIncludes.Nesting

open Parts

/-- What a fragment stands for, with its place. -/
abbrev Symbol : Type := Span × Directive

mutual

/-- Symbols that make up complete nodes, one after another: text and directives that hold no others,
conditionals with all their branches, and blocks. -/
inductive Derives : List Symbol → List Node → Prop where
  | nil : Derives [] []
  | leaf (later : Derives symbols nodes) :
    Derives ((span, .leaf content) :: symbols) (.leaf span content :: nodes)
  | conditional (body : Derives inside first) (branches : DerivesBranches tail rest)
      (later : Derives symbols nodes) :
    Derives ((opener, .startIf condition) :: (inside ++ tail) ++ (closer, .endIf) :: symbols)
      (.conditional ⟨opener.start, closer.stop⟩ condition first rest :: nodes)
  | block (body : Derives inside held) (later : Derives symbols nodes) :
    Derives ((opener, .startBlock name) :: inside ++ (closer, .endBlock) :: symbols)
      (.block ⟨opener.start, closer.stop⟩ name held :: nodes)

/-- Symbols that make up the branches of a conditional after its first one. -/
inductive DerivesBranches : List Symbol → Branches → Prop where
  | done : DerivesBranches [] .done
  | otherwise (body : Derives inside nodes) :
    DerivesBranches ((span, .otherwise) :: inside) (.otherwise nodes)
  | elif (body : Derives inside nodes) (later : DerivesBranches tail rest) :
    DerivesBranches ((span, .elif condition) :: inside ++ tail) (.elif condition nodes rest)

end

/-- Some continuation completes the symbols. -/
def Viable (symbols : List Symbol) : Prop := ∃ after nodes, Derives (symbols ++ after) nodes

/-- The innermost of the constructs that some symbols leave open; `last` tells whether it is a
conditional whose branch without a condition has been opened. -/
structure Innermost where
  kind : FrameKind
  opener : Span
  last : Bool

/-- What symbols leave open: nothing if they are complete, and else the construct whose opener is
followed by nothing but complete nodes and branches. -/
inductive LeavesOpen : List Symbol → Option Innermost → Prop where
  | nothing (complete : Derives symbols nodes) : LeavesOpen symbols none
  | conditional (body : Derives inside first) (branches : DerivesBranches tail rest) :
    LeavesOpen (outer ++ (opener, .startIf condition) :: (inside ++ tail))
      (some ⟨.conditional, opener, rest.otherwise?.isSome⟩)
  | block (body : Derives inside held) :
    LeavesOpen (outer ++ (opener, .startBlock name) :: inside) (some ⟨.block, opener, false⟩)

/-- The construct that has to be innermost for a directive to stand in it. -/
def place? : Directive → Option FrameKind
  | .elif _ => some .conditional
  | .otherwise => some .conditional
  | .endIf => some .conditional
  | .endBlock => some .block
  | .startIf _ => none
  | .startBlock _ => none
  | .leaf _ => none

/-- The name of a directive that needs a place, as tags spell it. -/
def spelling : Directive → String
  | .startIf _ => "if"
  | .elif _ => "elif"
  | .otherwise => "else"
  | .endIf => "endif"
  | .startBlock _ => "block"
  | .endBlock => "endblock"
  | .leaf content => content.directive

/-- Whether a directive opens another branch of a conditional. -/
def opensBranch : Directive → Bool
  | .elif _ => true
  | .otherwise => true
  | _ => false

/-- Why a directive cannot stand after symbols that leave something open, if it cannot. -/
def misfit? (innermost : Option Innermost) (directive : Directive) : Option ParseFault :=
  (place? directive).bind fun kind =>
    match innermost with
    | none => some (.unmatched (spelling directive) kind)
    | some innermost =>
      if innermost.kind ≠ kind then
        some (.mismatched (spelling directive) innermost.kind innermost.opener.start)
      else if innermost.last && opensBranch directive then
        some (.afterElse (spelling directive) innermost.opener.start)
      else none

/-- The error of symbols that do not nest: that of the first one with which no derivation can go on
or, if there is none, that of the innermost construct left open. -/
inductive StructuralError : List Symbol → ParseError → Prop where
  | misplaced (viable : Viable before) (stuck : ¬ Viable (before ++ [(span, directive)]))
      (leaves : LeavesOpen before innermost) (misfit : misfit? innermost directive = some fault) :
    StructuralError (before ++ (span, directive) :: after) ⟨span.start, fault⟩
  | unclosed (viable : Viable symbols) (leaves : LeavesOpen symbols (some innermost)) :
    StructuralError symbols ⟨innermost.opener.start, .unclosed innermost.kind⟩

/-- What a fragment stands for by itself. -/
def directiveOf (policy : AttributePolicy) : Fragment → Except ParseFault Directive
  | .literal bytes => .ok (.leaf (.literal bytes))
  | .tag body => do Directive.ofTag policy (← Tag.ofBody body)

/-- Every tag of a document ends and is valid by itself; `symbols` are what its fragments stand
for. -/
structure Reads (policy : AttributePolicy) (document : Bytes) (symbols : List Symbol) : Prop where
  terminated : (Fragments.scan document).unterminated? = none
  valid : List.Forall₂ (fun placed symbol =>
    symbol.1 = placed.1 ∧ directiveOf policy placed.2 = .ok symbol.2)
    (Fragments.scan document).placed symbols

/-! ## Derivations -/

theorem derives_append (first : Derives before nodes) (second : Derives after more) :
    Derives (before ++ after) (nodes ++ more) := by
  induction nodes generalizing before with
  | nil =>
    cases first
    exact second
  | cons node nodes ih =>
    cases first with
    | leaf later => exact .leaf (ih later)
    | conditional body branches later =>
      simpa using Derives.conditional body branches (ih later)
    | block body later => simpa using Derives.block body (ih later)

/-- Branches with conditions, and the branches after them. -/
def follow (elifs : List (Condition × List Node)) (rest : Branches) : Branches :=
  elifs.foldr (fun branch rest => .elif branch.1 branch.2 rest) rest

theorem of_list_eq_follow (elifs : List (Condition × List Node)) (last : Option (List Node)) :
    Branches.ofList elifs last = follow elifs (last.elim .done .otherwise) := by
  induction elifs with
  | nil => cases last <;> rfl
  | cons branch elifs ih => exact congrArg (Branches.elif branch.1 branch.2) ih

theorem follow_append (elifs later : List (Condition × List Node)) (rest : Branches) :
    follow (elifs ++ later) rest = follow elifs (follow later rest) := List.foldr_append

/-- More symbols after some branches go to those after the ones with conditions. -/
theorem derives_follow_extend (derives : DerivesBranches symbols (follow elifs rest))
    (extend : ∀ inside, DerivesBranches inside rest → DerivesBranches (inside ++ more) wider) :
    DerivesBranches (symbols ++ more) (follow elifs wider) := by
  induction elifs generalizing symbols with
  | nil => exact extend symbols derives
  | cons branch elifs ih =>
    cases derives with
    | elif body later =>
      rw [List.append_assoc]
      exact .elif body (ih later)

/-! ## What a stack of frames stands for -/

/-- The symbols from an opener on, as a frame holds them. -/
inductive Holds : Frame → List Symbol → Prop where
  | conditional (body : Derives inside first)
      (branches : DerivesBranches tail (Branches.ofList elifs.reverse last)) :
    Holds (.conditional opener condition first elifs last)
      ((opener, .startIf condition) :: (inside ++ tail))
  | block (body : Derives inside held) :
    Holds (.block opener name held) ((opener, .startBlock name) :: inside)

/-- The symbols read so far, as an assembly holds them: frame by frame, the innermost last. -/
inductive Represents : List Symbol → Assembly → Prop where
  | top (complete : Derives symbols root) : Represents symbols ⟨root, []⟩
  | frame (around : Represents outer ⟨root, frames⟩) (holds : Holds frame inside) :
    Represents (outer ++ inside) ⟨root, frame :: frames⟩

/-- A complete node goes to the branch or block that is being filled. -/
theorem holds_push (holds : Holds frame symbols) (derives : Derives more [node]) :
    Holds (frame.push node) (symbols ++ more) := by
  cases frame with
  | block opener name held =>
    cases holds with
    | block body => exact .block (derives_append body derives)
  | conditional opener condition first elifs last =>
    cases holds with
    | @conditional inside _ tail _ _ _ _ body branches =>
      rw [List.cons_append, List.append_assoc]
      rw [of_list_eq_follow] at branches
      cases last with
      | some last =>
        refine .conditional body ?_
        rw [of_list_eq_follow]
        refine derives_follow_extend branches fun inside derivesLast => ?_
        cases derivesLast with
        | otherwise filled => exact .otherwise (derives_append filled derives)
      | none =>
        cases elifs with
        | nil =>
          cases branches
          have none : DerivesBranches [] (Branches.ofList [].reverse none) := .done
          simpa [Frame.push] using Holds.conditional (derives_append body derives) none
        | cons newest earlier =>
          refine .conditional body ?_
          rw [of_list_eq_follow]
          rw [List.reverse_cons, follow_append] at branches ⊢
          refine derives_follow_extend branches fun inside derivesNewest => ?_
          cases derivesNewest with
          | elif filled later =>
            cases later
            simpa [follow] using DerivesBranches.elif (derives_append filled derives) .done

theorem represents_push (represents : Represents before assembly)
    (derives : Derives more [node]) : Represents (before ++ more) (assembly.push node) := by
  cases represents with
  | top complete => exact .top (derives_append complete derives)
  | frame around holds =>
    rw [List.append_assoc]
    exact .frame around (holds_push holds derives)

/-- A conditional without its last branch takes on another branch. -/
theorem holds_branch (holds : Holds (.conditional opener condition first elifs none) symbols)
    (branch : DerivesBranches more (Branches.ofList added last)) :
    Holds (.conditional opener condition first (added.reverse ++ elifs) last) (symbols ++ more) := by
  cases holds with
  | conditional body branches =>
    rw [List.cons_append, List.append_assoc]
    refine .conditional body ?_
    rw [of_list_eq_follow] at branches branch ⊢
    rw [List.reverse_append, List.reverse_reverse, follow_append]
    refine derives_follow_extend branches fun inside nothing => ?_
    cases nothing
    exact branch

/-- Where another branch may begin, the innermost frame is a conditional without its last one. -/
theorem frames_of_check_branch {assembly : Assembly}
    (checked : assembly.checkBranch directive = .ok ()) :
    ∃ opener condition body elifs outer,
      assembly.frames = .conditional opener condition body elifs none :: outer := by
  unfold Assembly.checkBranch at checked
  split at checked
  · rename_i frames
    exact ⟨_, _, _, _, _, frames⟩
  · cases checked
  · cases checked

/-- One step of the assembly keeps what it stands for. -/
theorem represents_apply {assembly : Assembly} (represents : Represents before assembly)
    (applied : assembly.apply span directive = .ok next) :
    Represents (before ++ [(span, directive)]) next := by
  obtain ⟨root, frames⟩ := assembly
  cases directive with
  | leaf content =>
    cases applied
    exact represents_push represents (.leaf .nil)
  | startIf condition =>
    cases applied
    have begun : Holds (.conditional span condition [] [] none)
        ((span, .startIf condition) :: ([] ++ [])) := .conditional .nil .done
    exact .frame represents begun
  | startBlock name =>
    cases applied
    exact .frame represents (.block .nil)
  | elif test =>
    simp only [Assembly.apply, bind, Except.bind] at applied
    split at applied
    · cases applied
    · rename_i checked
      obtain ⟨opener, condition, body, elifs, outer, rfl⟩ := frames_of_check_branch checked
      cases applied
      cases represents with
      | frame around holds =>
        rw [List.append_assoc]
        have branch : DerivesBranches ((span, .elif test) :: [] ++ [])
            (Branches.ofList [(test, [])] none) := .elif .nil .done
        exact .frame around (holds_branch holds branch)
  | otherwise =>
    simp only [Assembly.apply, bind, Except.bind] at applied
    split at applied
    · cases applied
    · rename_i checked
      obtain ⟨opener, condition, body, elifs, outer, rfl⟩ := frames_of_check_branch checked
      cases applied
      cases represents with
      | frame around holds =>
        rw [List.append_assoc]
        have branch : DerivesBranches [(span, .otherwise)] (Branches.ofList [] (some [])) :=
          .otherwise .nil
        exact .frame around (holds_branch holds branch)
  | endIf =>
    cases represents with
    | top complete => cases applied
    | frame around holds =>
      cases holds with
      | block body => cases applied
      | conditional body branches =>
        rw [Assembly.apply, Except.ok.injEq] at applied
        subst applied
        rw [List.append_assoc]
        refine represents_push around ?_
        simpa using Derives.conditional body branches .nil
  | endBlock =>
    cases represents with
    | top complete => cases applied
    | frame around holds =>
      cases holds with
      | conditional body branches => cases applied
      | block body =>
        rw [Assembly.apply, Except.ok.injEq] at applied
        subst applied
        rw [List.append_assoc]
        refine represents_push around ?_
        simpa using Derives.block body .nil

/-! ## Runs of the assembly -/

/-- Adds symbols one after another. -/
def run (assembly : Assembly) (symbols : List Symbol) : Except ParseError Assembly :=
  symbols.foldlM (fun assembly symbol =>
    (assembly.apply symbol.1 symbol.2).mapError fun fault => ⟨symbol.1.start, fault⟩) assembly

theorem run_cons {assembly next : Assembly}
    (applied : assembly.apply span directive = .ok next) (symbols : List Symbol) :
    run assembly ((span, directive) :: symbols) = run next symbols := by
  simp [run, applied, Except.mapError, bind, Except.bind]

theorem run_append (ran : run assembly before = .ok next) (after : List Symbol) :
    run assembly (before ++ after) = run next after := by
  unfold run at ran ⊢
  rw [List.foldlM_append, ran]
  rfl

theorem represents_run {assembly : Assembly} (represents : Represents before assembly)
    (ran : run assembly symbols = .ok next) : Represents (before ++ symbols) next := by
  induction symbols generalizing assembly before with
  | nil =>
    cases ran
    simpa using represents
  | cons symbol symbols ih =>
    obtain ⟨span, directive⟩ := symbol
    cases applied : assembly.apply span directive with
    | error fault => simp [run, applied, Except.mapError, bind, Except.bind] at ran
    | ok middle =>
      rw [run_cons applied] at ran
      simpa using ih (represents_apply represents applied) ran

/-- A frame with nodes added to the branch or block that is being filled. -/
def fill : Frame → List Node → Frame
  | .conditional opener condition body elifs (some last), nodes =>
    .conditional opener condition body elifs (some (last ++ nodes))
  | .conditional opener condition body ((test, newest) :: earlier) none, nodes =>
    .conditional opener condition body ((test, newest ++ nodes) :: earlier) none
  | .conditional opener condition body [] none, nodes =>
    .conditional opener condition (body ++ nodes) [] none
  | .block opener name body, nodes => .block opener name (body ++ nodes)

/-- An assembly with nodes added where nodes are being added. -/
def pushAll (assembly : Assembly) (nodes : List Node) : Assembly :=
  match assembly.frames with
  | [] => { assembly with root := assembly.root ++ nodes }
  | frame :: outer => { assembly with frames := fill frame nodes :: outer }

theorem fill_nil (frame : Frame) : fill frame [] = frame := by
  unfold fill
  split <;> simp

theorem fill_cons (frame : Frame) (node : Node) (nodes : List Node) :
    fill frame (node :: nodes) = fill (frame.push node) nodes := by
  fun_cases Frame.push node frame <;> simp [fill]

theorem push_all_nil (assembly : Assembly) : pushAll assembly [] = assembly := by
  obtain ⟨root, frames⟩ := assembly
  cases frames with
  | nil => simp [pushAll]
  | cons frame outer => simp [pushAll, fill_nil]

theorem push_all_cons (assembly : Assembly) (node : Node) (nodes : List Node) :
    pushAll assembly (node :: nodes) = pushAll (assembly.push node) nodes := by
  obtain ⟨root, frames⟩ := assembly
  cases frames with
  | nil => simp [pushAll, Assembly.push]
  | cons frame outer => simp [pushAll, Assembly.push, fill_cons]

theorem of_list_elifs : ∀ rest : Branches, Branches.ofList rest.elifs rest.otherwise? = rest
  | .done => rfl
  | .otherwise _ => rfl
  | .elif condition body rest => congrArg (Branches.elif condition body) (of_list_elifs rest)

mutual

/-- Whatever is open, complete nodes are added where nodes are being added. -/
theorem run_derives : Derives symbols nodes →
    ∀ assembly, run assembly symbols = .ok (pushAll assembly nodes)
  | .nil, assembly => by rw [push_all_nil]; rfl
  | .leaf later, assembly => by
    rw [push_all_cons, ← run_derives later]
    exact run_cons rfl _
  | @Derives.conditional inside first tail rest symbols nodes opener closer condition
      body branches later, ⟨root, frames⟩ => by
    rw [push_all_cons, ← run_derives later, List.cons_append, List.append_assoc]
    calc run ⟨root, frames⟩ ((opener, .startIf condition) :: (inside ++ (tail ++
          (closer, .endIf) :: symbols)))
        = run ⟨root, .conditional opener condition [] [] none :: frames⟩
            (inside ++ (tail ++ (closer, .endIf) :: symbols)) := run_cons rfl _
      _ = run _ (tail ++ (closer, .endIf) :: symbols) := run_append (run_derives body _) _
      _ = run _ ((closer, .endIf) :: symbols) :=
          run_append (run_derives_branches branches root opener condition _ [] frames) _
      _ = _ := by
        refine run_cons ?_ _
        simp only [Assembly.apply, List.append_nil, List.reverse_reverse]
        rw [of_list_elifs, List.nil_append]
  | @Derives.block inside held symbols nodes opener closer name body later, ⟨root, frames⟩ => by
    rw [push_all_cons, ← run_derives later, List.cons_append]
    calc run ⟨root, frames⟩ ((opener, .startBlock name) :: (inside ++
          (closer, .endBlock) :: symbols))
        = run ⟨root, .block opener name [] :: frames⟩ (inside ++ (closer, .endBlock) :: symbols) :=
          run_cons rfl _
      _ = run _ ((closer, .endBlock) :: symbols) := run_append (run_derives body _) _
      _ = _ := run_cons rfl _

/-- Branches are added to a conditional that has no last one yet. -/
theorem run_derives_branches : DerivesBranches symbols rest →
    ∀ root opener condition first elifs outer,
      run ⟨root, .conditional opener condition first elifs none :: outer⟩ symbols =
        .ok ⟨root, .conditional opener condition first (rest.elifs.reverse ++ elifs)
          rest.otherwise? :: outer⟩
  | .done, root, opener, condition, first, elifs, outer => rfl
  | @DerivesBranches.otherwise inside nodes span body, root, opener, condition, first, elifs,
      outer =>
    calc run ⟨root, .conditional opener condition first elifs none :: outer⟩
          ((span, .otherwise) :: inside)
        = run ⟨root, .conditional opener condition first elifs (some []) :: outer⟩ inside :=
          run_cons rfl _
      _ = _ := run_derives body _
  | @DerivesBranches.elif inside nodes tail rest span test body later, root, opener, condition,
      first, elifs, outer => by
    calc run ⟨root, .conditional opener condition first elifs none :: outer⟩
          ((span, .elif test) :: (inside ++ tail))
        = run ⟨root, .conditional opener condition first ((test, []) :: elifs) none :: outer⟩
            (inside ++ tail) := run_cons rfl _
      _ = run ⟨root, .conditional opener condition first ((test, nodes) :: elifs) none :: outer⟩
            tail := run_append (run_derives body _) _
      _ = _ := by
        simpa [Branches.elifs, Branches.otherwise?] using
          run_derives_branches later root opener condition first ((test, nodes) :: elifs) outer

end

/-! ## What can follow, and what is innermost -/

theorem frames_length_push (assembly : Assembly) (node : Node) :
    (assembly.push node).frames.length = assembly.frames.length := by
  obtain ⟨root, frames⟩ := assembly
  cases frames <;> rfl

/-- The innermost construct can be closed. -/
theorem closes (frame : Frame) (outer : List Frame) (root : List Node) (span : Span) :
    ∃ directive next, Assembly.apply ⟨root, frame :: outer⟩ span directive = .ok next ∧
      next.frames.length = outer.length := by
  cases frame with
  | conditional opener condition body elifs last =>
    exact ⟨.endIf, _, rfl, frames_length_push _ _⟩
  | block opener name body => exact ⟨.endBlock, _, rfl, frames_length_push _ _⟩

/-- What an assembly stands for can be completed: by closing its frames, the innermost first. -/
theorem viable_of_represents {assembly : Assembly} (represents : Represents symbols assembly) :
    Viable symbols := by
  obtain ⟨count, length⟩ : ∃ count, assembly.frames.length = count := ⟨_, rfl⟩
  induction count generalizing symbols assembly with
  | zero =>
    cases represents with
    | top complete => exact ⟨[], _, by simpa using complete⟩
    | frame around holds => simp at length
  | succ count ih =>
    obtain ⟨root, frames⟩ := assembly
    cases frames with
    | nil => simp at length
    | cons frame outer =>
      obtain ⟨directive, next, applied, shorter⟩ := closes frame outer root ⟨0, 0⟩
      have remaining : next.frames.length = count := by simpa [shorter] using length
      obtain ⟨after, nodes, derives⟩ := ih (represents_apply represents applied) remaining
      exact ⟨(⟨0, 0⟩, directive) :: after, nodes, by simpa using derives⟩

theorem represents_empty : Represents [] Assembly.empty := .top .nil

theorem run_append_error {assembly : Assembly} (ran : run assembly before = .error error)
    (after : List Symbol) : run assembly (before ++ after) = .error error := by
  unfold run at ran ⊢
  rw [List.foldlM_append, ran]
  rfl

/-- Symbols can be completed exactly if the assembly takes all of them. -/
theorem viable_iff_run : Viable symbols ↔ ∃ assembly, run .empty symbols = .ok assembly := by
  constructor
  · rintro ⟨after, nodes, derives⟩
    cases ran : run .empty symbols with
    | ok assembly => exact ⟨assembly, rfl⟩
    | error error =>
      have failed := run_append_error ran after
      rw [run_derives derives] at failed
      cases failed
  · rintro ⟨assembly, ran⟩
    exact viable_of_represents (represents_run represents_empty ran)

/-- The innermost construct, as the assembly has it on its stack. -/
def innermost? (assembly : Assembly) : Option Innermost :=
  assembly.frames.head?.map fun frame => ⟨frame.kind, frame.opener,
    match frame with
    | .conditional _ _ _ _ last => last.isSome
    | .block _ _ _ => false⟩

theorem otherwise_of_list (elifs : List (Condition × List Node)) (last : Option (List Node)) :
    (Branches.ofList elifs last).otherwise? = last := by
  induction elifs with
  | nil => cases last <;> rfl
  | cons branch elifs ih => exact ih

/-- The stack shows what the symbols leave open. -/
theorem leaves_open_of_represents {assembly : Assembly}
    (represents : Represents symbols assembly) : LeavesOpen symbols (innermost? assembly) := by
  cases represents with
  | top complete => exact .nothing complete
  | @frame outer root frames frame inside around holds =>
    cases frame with
    | conditional opener condition first elifs last =>
      cases holds with
      | @conditional inside _ tail _ _ _ _ body branches =>
        have leaves : LeavesOpen (outer ++ (opener, .startIf condition) :: (inside ++ tail)) _ :=
          .conditional body branches
        rwa [otherwise_of_list] at leaves
    | block opener name held =>
      cases holds with
      | block body => exact .block body

theorem ok_of_run_append (ran : run .empty (before ++ after) = .ok assembly) :
    ∃ middle, run .empty before = .ok middle ∧ run middle after = .ok assembly := by
  cases first : run .empty before with
  | error error =>
    rw [run_append_error first after] at ran
    cases ran
  | ok middle =>
    rw [run_append first after] at ran
    exact ⟨middle, rfl, ran⟩

/-- Symbols leave nothing else open than what the stack shows. -/
theorem innermost_of_leaves_open (leaves : LeavesOpen symbols innermost)
    (ran : run .empty symbols = .ok assembly) : innermost = innermost? assembly := by
  cases leaves with
  | nothing complete =>
    rw [run_derives complete] at ran
    cases ran
    rfl
  | @conditional inside first tail rest outer opener condition body branches =>
    obtain ⟨⟨root, frames⟩, before, later⟩ := ok_of_run_append ran
    have filled : pushAll ⟨root, .conditional opener condition [] [] none :: frames⟩ first =
        ⟨root, .conditional opener condition first [] none :: frames⟩ := rfl
    rw [run_cons rfl, run_append (run_derives body _), filled,
      run_derives_branches branches] at later
    cases later
    rfl
  | block body =>
    obtain ⟨⟨root, frames⟩, before, later⟩ := ok_of_run_append ran
    rw [run_cons rfl, run_derives body] at later
    cases later
    rfl

/-! ## Errors -/

/-- A directive is refused for what is innermost, and for nothing else. -/
theorem apply_error_iff (assembly : Assembly) (span : Span) (directive : Directive) :
    assembly.apply span directive = .error fault ↔
      misfit? (innermost? assembly) directive = some fault := by
  obtain ⟨root, frames⟩ := assembly
  rcases frames with _ | ⟨⟨opener, condition, body, elifs, _ | last⟩ | ⟨opener, name, body⟩, outer⟩ <;>
    cases directive <;>
    simp [Assembly.apply, Assembly.checkBranch, Assembly.misplaced, misfit?, innermost?, place?,
      spelling, opensBranch, Frame.kind, Frame.opener, bind, Except.bind, pure, Except.pure]

/-- A run fails at the first symbol that is refused. -/
theorem run_error {assembly : Assembly} (ran : run assembly symbols = .error error) :
    ∃ before span directive after middle fault, symbols = before ++ (span, directive) :: after ∧
      run assembly before = .ok middle ∧ middle.apply span directive = .error fault ∧
      error = ⟨span.start, fault⟩ := by
  induction symbols generalizing assembly with
  | nil => cases ran
  | cons symbol symbols ih =>
    obtain ⟨span, directive⟩ := symbol
    cases applied : assembly.apply span directive with
    | error fault =>
      refine ⟨[], span, directive, symbols, assembly, fault, rfl, rfl, applied, ?_⟩
      simpa [run, applied, Except.mapError, bind, Except.bind, eq_comm] using ran
    | ok next =>
      rw [run_cons applied] at ran
      obtain ⟨before, span', directive', after, middle, fault, rfl, first, refused, same⟩ := ih ran
      refine ⟨(span, directive) :: before, span', directive', after, middle, fault, rfl, ?_,
        refused, same⟩
      rw [run_cons applied, first]

theorem run_refused {assembly middle : Assembly} (ran : run assembly before = .ok middle)
    (refused : middle.apply span directive = .error fault) (after : List Symbol) :
    run assembly (before ++ (span, directive) :: after) = .error ⟨span.start, fault⟩ := by
  rw [run_append ran]
  simp [run, refused, Except.mapError, bind, Except.bind]

/-- What assembling symbols from nothing yields. -/
def assemble (symbols : List Symbol) : Except ParseError (List Node) :=
  (run .empty symbols).bind Assembly.finish

theorem assemble_ok_iff : assemble symbols = .ok nodes ↔ Derives symbols nodes := by
  constructor
  · intro assembled
    unfold assemble at assembled
    cases ran : run .empty symbols with
    | error error => simp [ran, Except.bind] at assembled
    | ok assembly =>
      have represents := represents_run represents_empty ran
      simp only [ran, Except.bind] at assembled
      cases represents with
      | top complete =>
        cases assembled
        exact complete
      | frame around holds => cases assembled
  · intro derives
    unfold assemble
    rw [run_derives derives]
    rfl

theorem assemble_error_iff : assemble symbols = .error error ↔ StructuralError symbols error := by
  constructor
  · intro assembled
    unfold assemble at assembled
    cases ran : run .empty symbols with
    | error error' =>
      rw [ran] at assembled
      cases assembled
      obtain ⟨before, span, directive, after, middle, fault, rfl, first, refused, rfl⟩ :=
        run_error ran
      refine .misplaced (viable_iff_run.2 ⟨middle, first⟩) ?_
        (leaves_open_of_represents (represents_run represents_empty first))
        ((apply_error_iff middle span directive).1 refused)
      intro viable
      obtain ⟨assembly, taken⟩ := viable_iff_run.1 viable
      rw [run_refused first refused] at taken
      cases taken
    | ok assembly =>
      have represents := represents_run represents_empty ran
      have leaves := leaves_open_of_represents represents
      obtain ⟨root, frames⟩ := assembly
      rw [ran] at assembled
      cases frames with
      | nil => cases assembled
      | cons frame outer =>
        cases assembled
        exact .unclosed (viable_of_represents represents) leaves
  · intro wrong
    unfold assemble
    cases wrong with
    | misplaced viable stuck leaves misfit =>
      obtain ⟨middle, first⟩ := viable_iff_run.1 viable
      rw [innermost_of_leaves_open leaves first] at misfit
      rw [run_refused first ((apply_error_iff ..).2 misfit)]
      rfl
    | unclosed viable leaves =>
      obtain ⟨⟨root, frames⟩, ran⟩ := viable_iff_run.1 viable
      have shown := innermost_of_leaves_open leaves ran
      rw [ran]
      cases frames with
      | nil => cases shown
      | cons frame outer =>
        cases shown
        rfl

/-! ## Documents -/

/-- A tag of this name is either refused or stands for a branch. -/
theorem elif_of_tag (named : tag.name = "elif")
    (read : Directive.ofTag policy tag = .ok directive) :
    ∃ condition, directive = .elif condition := by
  have allowed : Directive.allowed? tag.name = some ["expr"] := by rw [named]; rfl
  simp only [Directive.ofTag, allowed] at read
  cases accepted : AcceptedAttributes.ofTag policy tag ["expr"] with
  | error fault => rw [accepted] at read; cases read
  | ok attributes =>
    have same : attributes.directive = "elif" := by
      unfold AcceptedAttributes.ofTag at accepted
      cases items : tag.attributes.foldlM
          (AcceptedAttributes.accept policy tag.name ["expr"]) [] with
      | error fault => rw [items] at accepted; cases accepted
      | ok items' => rw [items] at accepted; cases accepted; exact named
    rw [accepted] at read
    cases tested : attributes.condition with
    | error fault =>
      simp [Directive.ofAttributes, same, tested, bind, Except.bind] at read
    | ok condition =>
      refine ⟨condition, ?_⟩
      simpa [Directive.ofAttributes, same, tested, bind, Except.bind, pure, Except.pure,
        eq_comm] using read

/-- A branch is refused where the check of its place refuses it. -/
theorem check_branch_of_apply (assembly : Assembly) (span : Span) (condition : Condition) :
    (assembly.checkBranch "elif").bind (fun _ => assembly.apply span (.elif condition)) =
      assembly.apply span (.elif condition) := by
  cases checked : assembly.checkBranch "elif" with
  | error fault => simp [Assembly.apply, checked, bind, Except.bind]
  | ok _ => rfl

/-- What a fragment stands for by itself is what the assembly takes it for. -/
theorem take_eq_apply (assembly : Assembly) {placed : Span × Fragment}
    (read : directiveOf policy placed.2 = .ok directive) :
    assembly.take policy placed =
      (assembly.apply placed.1 directive).mapError fun fault => ⟨placed.1.start, fault⟩ := by
  obtain ⟨span, fragment⟩ := placed
  cases fragment with
  | literal bytes =>
    cases read
    rfl
  | tag body =>
    cases spelled : Tag.ofBody body with
    | error fault => simp [directiveOf, spelled, bind, Except.bind] at read
    | ok tag =>
      have stands : Directive.ofTag policy tag = .ok directive := by
        simpa [directiveOf, spelled, bind, Except.bind] using read
      have taken : assembly.takeTag policy span body = assembly.apply span directive := by
        by_cases named : tag.name = "elif"
        · obtain ⟨condition, rfl⟩ := elif_of_tag named stands
          have checked := check_branch_of_apply assembly span condition
          simpa [Assembly.takeTag, spelled, named, stands, bind, Except.bind] using checked
        · simp [Assembly.takeTag, spelled, named, stands, bind, Except.bind]
      simp only [Assembly.take, taken]

theorem fold_take_eq_run {placed : List (Span × Fragment)}
    (valid : List.Forall₂ (fun placed symbol =>
      symbol.1 = placed.1 ∧ directiveOf policy placed.2 = .ok symbol.2) placed symbols)
    (assembly : Assembly) :
    placed.foldlM (Assembly.take policy) assembly = run assembly symbols := by
  induction valid generalizing assembly with
  | nil => rfl
  | @cons placed symbol later symbols reads valid ih =>
    obtain ⟨span, directive⟩ := symbol
    obtain ⟨rfl, read⟩ := reads
    rw [List.foldlM_cons, take_eq_apply assembly read]
    cases applied : assembly.apply placed.1 directive with
    | error fault => simp [run, applied, Except.mapError, bind, Except.bind]
    | ok next =>
      rw [run_cons applied]
      exact ih next

theorem parse_eq_assemble (reads : Reads policy document symbols) :
    Document.parse policy document = assemble symbols := by
  simp only [Document.parse, fold_take_eq_run reads.valid, reads.terminated]
  rfl

/-- What the assembly takes is valid by itself. -/
theorem directive_of_take {assembly : Assembly} {placed : Span × Fragment}
    (taken : assembly.take policy placed = .ok next) :
    ∃ directive, directiveOf policy placed.2 = .ok directive := by
  obtain ⟨span, fragment⟩ := placed
  cases fragment with
  | literal bytes => exact ⟨_, rfl⟩
  | tag body =>
    obtain ⟨tag, spelled, checked⟩ := ok_of_bind (ok_of_map_error taken)
    have stands : ∃ directive, Directive.ofTag policy tag = .ok directive := by
      by_cases named : tag.name = "elif"
      · simp only [named, if_true] at checked
        obtain ⟨_, _, later⟩ := ok_of_bind checked
        obtain ⟨directive, read, _⟩ := ok_of_bind later
        exact ⟨directive, read⟩
      · simp only [named, if_false] at checked
        obtain ⟨directive, read, _⟩ := ok_of_bind checked
        exact ⟨directive, read⟩
    obtain ⟨directive, read⟩ := stands
    exact ⟨directive, by simp [directiveOf, spelled, read, bind, Except.bind]⟩

/-- What placed fragments stand for one by one. -/
abbrev Stand (policy : AttributePolicy) : List (Span × Fragment) → List Symbol → Prop :=
  List.Forall₂ fun placed symbol => symbol.1 = placed.1 ∧ directiveOf policy placed.2 = .ok symbol.2

theorem symbols_of_fold {assembly : Assembly} {placed : List (Span × Fragment)}
    (folded : placed.foldlM (Assembly.take policy) assembly = .ok last) :
    ∃ symbols, Stand policy placed symbols := by
  induction placed generalizing assembly with
  | nil => exact ⟨[], .nil⟩
  | cons placed later ih =>
    obtain ⟨next, taken, folded⟩ := ok_of_bind folded
    obtain ⟨directive, read⟩ := directive_of_take taken
    obtain ⟨symbols, valid⟩ := ih folded
    exact ⟨(placed.1, directive) :: symbols, .cons ⟨rfl, read⟩ valid⟩

/-- A document that is accepted ends all its tags, each of them valid by itself, and its tree is that
of their nesting. -/
theorem reads_of_parse (parsed : Document.parse policy document = .ok nodes) :
    ∃ symbols, Reads policy document symbols ∧ Derives symbols nodes := by
  obtain ⟨assembly, folded, finished⟩ := ok_of_bind parsed
  obtain ⟨symbols, valid⟩ := symbols_of_fold folded
  split at finished
  · cases finished
  · rename_i terminated
    have reads : Reads policy document symbols := ⟨terminated, valid⟩
    rw [parse_eq_assemble reads] at parsed
    exact ⟨symbols, reads, assemble_ok_iff.1 parsed⟩

/-- A document whose tags are valid one by one is accepted exactly if they nest, and its tree is that
of the nesting. Otherwise the error is that of the first tag with which no nesting can go on or, if
all tags fit, that of the innermost construct left open. -/
theorem parse_nesting (reads : Reads policy document symbols) :
    (∀ nodes, Document.parse policy document = .ok nodes ↔ Derives symbols nodes) ∧
      ∀ error, Document.parse policy document = .error error ↔ StructuralError symbols error := by
  rw [parse_eq_assemble reads]
  exact ⟨fun _ => assemble_ok_iff, fun _ => assemble_error_iff⟩

/-- A block in the last branch of a conditional, and the tree of it. -/
theorem parse_nested_block :
    ∃ symbols,
      Reads .strict (Bytes.ofText ("<!--#if expr=\"$a\" -->x<!--#else -->" ++
        "<!--#block name=\"b\" --><!--#endblock --><!--#endif -->")) symbols ∧
      Document.parse .strict (Bytes.ofText ("<!--#if expr=\"$a\" -->x<!--#else -->" ++
        "<!--#block name=\"b\" --><!--#endblock --><!--#endif -->")) =
          .ok [.conditional ⟨0, 89⟩ (.reference "a") [.leaf ⟨21, 22⟩ (.literal [0x78])]
            (.otherwise [.block ⟨35, 75⟩ "b" []])] := by
  have reads : Reads .strict (Bytes.ofText ("<!--#if expr=\"$a\" -->x<!--#else -->" ++
      "<!--#block name=\"b\" --><!--#endblock --><!--#endif -->"))
      [(⟨0, 21⟩, .startIf (.reference "a")), (⟨21, 22⟩, .leaf (.literal [0x78])),
        (⟨22, 35⟩, .otherwise), (⟨35, 58⟩, .startBlock "b"), (⟨58, 75⟩, .endBlock),
        (⟨75, 89⟩, .endIf)] :=
    ⟨by decide +kernel, by decide +kernel⟩
  refine ⟨_, reads, ((parse_nesting reads).1 _).2 ?_⟩
  exact .conditional (.leaf .nil) (.otherwise (.block .nil .nil)) .nil

end ServerIncludes.Nesting
