import ServerIncludes.Proofs.Document.Faults
import ServerIncludes.Proofs.Document.Scanning
import ServerIncludes.Proofs.Parts

/-! Documents written one behind the other. What is read of the first one is settled by its octets:
its fragments, its tree and the error of a tag in it stay what they are, whatever follows. The second
one is read as it is by itself, moved by the length of the first. -/
namespace ServerIncludes.Appending

open FaultSources Parts Scanning
open Fragment (opener closer source)
open Fragments (scan place)

/-! ## Moving -/

def moveSpan (distance : Nat) (span : Span) : Span :=
  ⟨distance + span.start, distance + span.stop⟩

mutual

def moveNode (distance : Nat) : Node → Node
  | .leaf span content => .leaf (moveSpan distance span) content
  | .conditional span condition body rest =>
    .conditional (moveSpan distance span) condition (moveNodes distance body)
      (moveBranches distance rest)
  | .block span name body => .block (moveSpan distance span) name (moveNodes distance body)

def moveBranches (distance : Nat) : Branches → Branches
  | .done => .done
  | .otherwise body => .otherwise (moveNodes distance body)
  | .elif condition body rest =>
    .elif condition (moveNodes distance body) (moveBranches distance rest)

/-- Nodes with all their spans, at any depth, moved by a distance. -/
def moveNodes (distance : Nat) : List Node → List Node
  | [] => []
  | node :: rest => moveNode distance node :: moveNodes distance rest

end

/-- Where the opener starts that a fault names, if it names one. -/
def openerStart? : ParseFault → Option Nat
  | .mismatched _ _ start => some start
  | .afterElse _ start => some start
  | _ => none

def moveFault (distance : Nat) : ParseFault → ParseFault
  | .mismatched directive opener start => .mismatched directive opener (distance + start)
  | .afterElse directive start => .afterElse directive (distance + start)
  | fault => fault

def moveError (distance : Nat) (error : ParseError) : ParseError :=
  ⟨distance + error.offset, moveFault distance error.fault⟩

/-- Documents between which no fragment reaches from one into the other: nothing stands in the first
one, or it ends with a tag, or the second one starts with an opener. -/
def Joins (first second : Bytes) : Prop :=
  first = [] ∨ (∃ last, (scan first).placed.getLast? = some last ∧ last.2.isTag = true) ∨
    opener <+: second

/-- An error lies where a tag stands, or where one starts that never ends, and an opener that it
names belongs to a tag that ends before it. -/
def Located (document : Bytes) (error : ParseError) : Prop :=
  (error.fault = .unterminated ∧ (scan document).unterminated? = some error.offset) ∨
  (error.fault ≠ .unterminated ∧
    (∃ span body, (span, .tag body) ∈ (scan document).placed ∧ span.start = error.offset) ∧
    ∀ start, openerStart? error.fault = some start → ∃ span body,
      (span, .tag body) ∈ (scan document).placed ∧ span.start = start ∧ span.stop ≤ error.offset)

/-! ## Fragments -/

/-- Where a tag ends does not depend on what stands behind it. -/
theorem first_closer_tail (first : FirstCloser (body ++ closer ++ after) body.length)
    (other : Bytes) : FirstCloser (body ++ closer ++ other) body.length := by
  obtain ⟨⟨_, outside⟩, none⟩ := first
  have same : ∀ place ≤ body.length, ∀ tail,
      (body ++ closer ++ tail).take place = body.take place := by
    intro place within tail
    rw [List.append_assoc, List.take_append_of_le_length within]
  refine ⟨⟨?_, ?_⟩, ?_⟩
  · rw [List.append_assoc, List.drop_left]
    exact List.prefix_append closer other
  · rw [same _ (Nat.le_refl _)] at outside ⊢
    exact outside
  · rintro place before ⟨closes, passed⟩
    -- a closer that starts before the end of the body ends no later than the closer behind it
    have room : closer.length ≤ ((body ++ closer).drop place).length := by
      simp only [List.length_drop, List.length_append]
      omega
    have within : place ≤ (body ++ closer).length := by
      simp only [List.length_append]
      omega
    rw [List.drop_append_of_le_length within] at closes
    refine none place before ⟨?_, ?_⟩
    · rw [List.drop_append_of_le_length within]
      exact (List.prefix_of_prefix_length_le closes (List.prefix_append _ _) room).trans
        (List.prefix_append _ _)
    · rw [same _ (Nat.le_of_lt before)] at passed ⊢
      exact passed

/-- Fragments up to a tag are where a document has to be cut that ends with this tag. -/
theorem cut_front {earlier : List Fragment} (cut : Cut (earlier ++ .tag body :: later) left) :
    Cut (earlier ++ [.tag body]) [] := by
  induction earlier with
  | nil => exact ⟨first_closer_tail cut.1 _, .inl rfl⟩
  | cons fragment earlier ih =>
    cases fragment with
    | literal bytes =>
      obtain ⟨nonempty, free, next, cut⟩ := cut
      refine ⟨nonempty, free, ?_, ih cut⟩
      cases earlier <;> exact next
    | tag inner =>
      obtain ⟨first, cut⟩ := cut
      exact ⟨first_closer_tail first _, ih cut⟩

/-- Fragments of which the last one before and the first one behind are not both text. -/
theorem cut_append (before : Cut list []) (after : Cut more left)
    (apart : ∀ last ∈ list.getLast?, ∀ next ∈ more.head?, last.isTag = true ∨ next.isTag = true) :
    Cut (list ++ more) left := by
  induction list with
  | nil => exact after
  | cons fragment list ih =>
    have behind : ∀ last ∈ list.getLast?, ∀ next ∈ more.head?,
        last.isTag = true ∨ next.isTag = true := by
      cases list with
      | nil => exact nofun
      | cons second list =>
        rw [List.getLast?_cons_cons] at apart
        exact apart
    cases fragment with
    | literal bytes =>
      obtain ⟨nonempty, free, next, before⟩ := before
      refine ⟨nonempty, free, ?_, ih before behind⟩
      cases list with
      | nil =>
        intro fragment member
        have either := apart (.literal bytes) rfl fragment member
        simpa [Fragment.isTag] using either
      | cons second list => exact next
    | tag body =>
      obtain ⟨first, before⟩ := before
      exact ⟨first_closer_tail first _, ih before behind⟩

theorem size_append (first second : List Fragment) :
    Fragments.size (first ++ second) = Fragments.size first + Fragments.size second := by
  simp only [← length_sources, List.flatMap_append, List.length_append]

theorem place_append (start : Nat) (first second : List Fragment) :
    place start (first ++ second) =
      place start first ++ place (start + Fragments.size first) second := by
  induction first generalizing start with
  | nil => rfl
  | cons fragment first ih =>
    simp only [List.cons_append, place, ih, Fragments.size, Nat.add_assoc]

/-- A fragment with its place, moved. -/
def moveEntry (distance : Nat) (entry : Span × Fragment) : Span × Fragment :=
  (moveSpan distance entry.1, entry.2)

theorem place_move (distance start : Nat) (list : List Fragment) :
    place (distance + start) list = (place start list).map (moveEntry distance) := by
  induction list generalizing start with
  | nil => rfl
  | cons fragment list ih =>
    simp only [place, List.map_cons, moveEntry, moveSpan, Nat.add_assoc, ih]

/-- Documents that join are scanned one after the other. -/
theorem scan_append (whole : (scan first).rest = []) (joins : Joins first second) :
    scan (first ++ second) = ⟨(scan first).list ++ (scan second).list, (scan second).rest⟩ := by
  obtain ⟨sameFirst, cutFirst⟩ := scan_cut first
  obtain ⟨sameSecond, cutSecond⟩ := scan_cut second
  rw [whole] at sameFirst cutFirst
  have cut := cut_append cutFirst cutSecond ?_
  · have spelling : spelled ((scan first).list ++ (scan second).list) (scan second).rest =
        first ++ second := by
      conv_rhs => rw [← sameFirst, ← sameSecond]
      simp [spelled]
    rw [← spelling]
    exact scan_of_cut cut
  intro last isLast next isNext
  rcases joins with rfl | ⟨entry, final, isTag⟩ | opens
  · rw [scan] at isLast
    cases isLast
  · have fragments := congrArg List.getLast? (place_fragments (scan first).list 0)
    rw [List.getLast?_map] at fragments
    rw [← fragments, show (place 0 (scan first).list).getLast? = some entry from final] at isLast
    cases isLast
    exact .inl isTag
  · exact .inr (scan_head_is_tag opens next isNext)

theorem size_of_whole (whole : (scan first).rest = []) :
    Fragments.size (scan first).list = first.length := by
  have same := congrArg List.length (scan_cut first).1
  rwa [spelled, whole, List.append_nil, length_sources] at same

theorem placed_append (whole : (scan first).rest = []) (joins : Joins first second) :
    (scan (first ++ second)).placed =
      (scan first).placed ++ (scan second).placed.map (moveEntry first.length) := by
  rw [Fragments.placed, scan_append whole joins, place_append, size_of_whole whole, Nat.zero_add]
  exact congrArg _ (place_move first.length 0 _)

theorem unterminated_append (whole : (scan first).rest = []) (joins : Joins first second) :
    (scan (first ++ second)).unterminated? =
      (scan second).unterminated?.map (first.length + ·) := by
  rw [Fragments.unterminated?, scan_append whole joins, size_append, size_of_whole whole]
  unfold Fragments.unterminated?
  split <;> rfl

/-! ## A run elsewhere -/

/-- A step that yields what another one yields, changed in the one way if it succeeds and in the
other if it fails. -/
def Carries (change : α → β) (report : ε → ε') (original : Except ε α) (moved : Except ε' β) : Prop :=
  moved = (original.map change).mapError report

theorem carries_bind {report : ε → ε'} {original : Except ε α} {moved : Except ε' β}
    {next : α → Except ε γ} {other : β → Except ε' δ} {change : α → β} {further : γ → δ}
    (first : Carries change report original moved)
    (later : ∀ value, Carries further report (next value) (other (change value))) :
    Carries further report (original.bind next) (moved.bind other) := by
  cases first
  cases original with
  | error error => rfl
  | ok value => exact later value

theorem carries_map_error {report : ε → ε'} {wider : δ → δ'} {original : Except ε α}
    {moved : Except ε' β} {change : α → β} (first : Carries change report original moved)
    {place : ε → δ} {place' : ε' → δ'} (same : ∀ error, place' (report error) = wider (place error)) :
    Carries change wider (original.mapError place) (moved.mapError place') := by
  cases first
  cases original with
  | error error => exact congrArg Except.error (same error)
  | ok value => rfl

theorem carries_foldlM {report : ε → ε'} {step : σ → α → Except ε σ} {other : τ → β → Except ε' τ}
    {change : σ → τ} {move : α → β}
    (each : ∀ state item, Carries change report (step state item) (other (change state) (move item)))
    (items : List α) (state : σ) :
    Carries change report (items.foldlM step state) ((items.map move).foldlM other (change state)) := by
  induction items generalizing state with
  | nil => rfl
  | cons item items ih => exact carries_bind (each state item) ih

theorem move_fault_of_own (own : OwnFault fault) : moveFault distance fault = fault := by
  cases own with
  | spelling own => cases own <;> rfl
  | unknown => rfl
  | duplicate => rfl
  | value own => cases own <;> rfl

/-- A tag by itself is read in the same way wherever it stands. -/
theorem carries_of_reports {result : Except ParseFault α} (reports : Reports OwnFault result) :
    Carries id (moveFault distance) result result := by
  cases result with
  | error fault => exact congrArg Except.error (move_fault_of_own (reports fault rfl)).symm
  | ok value => rfl

theorem move_nodes_append (distance : Nat) (first second : List Node) :
    moveNodes distance (first ++ second) = moveNodes distance first ++ moveNodes distance second := by
  induction first with
  | nil => rfl
  | cons node first ih => simp only [List.cons_append, moveNodes, ih]

def moveElif (distance : Nat) (branch : Condition × List Node) : Condition × List Node :=
  (branch.1, moveNodes distance branch.2)

theorem move_of_list (distance : Nat) (elifs : List (Condition × List Node))
    (last : Option (List Node)) :
    moveBranches distance (Branches.ofList elifs last) =
      Branches.ofList (elifs.map (moveElif distance)) (last.map (moveNodes distance)) := by
  induction elifs with
  | nil => cases last <;> rfl
  | cons branch elifs ih => simp only [Branches.ofList, moveBranches, List.map_cons, moveElif, ih]

def moveFrame (distance : Nat) : Frame → Frame
  | .conditional opener condition body elifs last =>
    .conditional (moveSpan distance opener) condition (moveNodes distance body)
      (elifs.map (moveElif distance)) (last.map (moveNodes distance))
  | .block opener name body => .block (moveSpan distance opener) name (moveNodes distance body)

theorem move_frame_push (distance : Nat) (frame : Frame) (node : Node) :
    moveFrame distance (frame.push node) =
      (moveFrame distance frame).push (moveNode distance node) := by
  fun_cases Frame.push node frame <;>
    simp [moveFrame, Frame.push, moveElif, move_nodes_append, moveNodes]

/-- An assembly that is moved, behind nodes that are complete. -/
def behind (nodes : List Node) (distance : Nat) (assembly : Assembly) : Assembly :=
  ⟨nodes ++ moveNodes distance assembly.root, assembly.frames.map (moveFrame distance)⟩

section

variable (nodes : List Node) (distance : Nat) (assembly : Assembly)

theorem behind_push (node : Node) :
    behind nodes distance (assembly.push node) =
      (behind nodes distance assembly).push (moveNode distance node) := by
  obtain ⟨root, frames⟩ := assembly
  cases frames with
  | nil => simp [behind, Assembly.push, move_nodes_append, moveNodes]
  | cons frame outer => simp [behind, Assembly.push, move_frame_push]

theorem carries_check_branch (directive : String) :
    Carries id (moveFault distance) (assembly.checkBranch directive)
      ((behind nodes distance assembly).checkBranch directive) := by
  obtain ⟨root, frames⟩ := assembly
  rcases frames with _ | ⟨⟨opener, condition, body, elifs, _ | last⟩ | ⟨opener, name, body⟩, outer⟩ <;>
    rfl

/-- Whatever a tag stands for, it does the same to an assembly that is moved. -/
theorem carries_apply (span : Span) (directive : Directive) :
    Carries (behind nodes distance) (moveFault distance) (assembly.apply span directive)
      ((behind nodes distance assembly).apply (moveSpan distance span) directive) := by
  have checked := carries_check_branch nodes distance assembly
  obtain ⟨root, frames⟩ := assembly
  cases directive with
  | leaf content =>
    exact congrArg Except.ok (behind_push nodes distance ⟨root, frames⟩ (.leaf span content)).symm
  | startIf condition => rfl
  | startBlock name => rfl
  | elif test =>
    refine carries_bind (checked "elif") fun _ => ?_
    rcases frames with _ | ⟨⟨opener, condition, body, elifs, _ | last⟩ | ⟨opener, name, body⟩, outer⟩ <;>
      rfl
  | otherwise =>
    refine carries_bind (checked "else") fun _ => ?_
    rcases frames with _ | ⟨⟨opener, condition, body, elifs, _ | last⟩ | ⟨opener, name, body⟩, outer⟩ <;>
      rfl
  | endIf =>
    rcases frames with _ | ⟨⟨opener, condition, body, elifs, last⟩ | ⟨opener, name, body⟩, outer⟩
    · rfl
    · refine congrArg Except.ok (Eq.trans ?_ (behind_push nodes distance ⟨root, outer⟩ _).symm)
      simp [moveNode, move_of_list, behind, moveSpan]
    · rfl
  | endBlock =>
    rcases frames with _ | ⟨⟨opener, condition, body, elifs, last⟩ | ⟨opener, name, body⟩, outer⟩
    · rfl
    · rfl
    · exact congrArg Except.ok (behind_push nodes distance ⟨root, outer⟩
        (.block ⟨opener.start, span.stop⟩ name body)).symm

theorem carries_take (policy : AttributePolicy) (entry : Span × Fragment) :
    Carries (behind nodes distance) (moveError distance) (assembly.take policy entry)
      ((behind nodes distance assembly).take policy (moveEntry distance entry)) := by
  obtain ⟨span, fragment⟩ := entry
  cases fragment with
  | literal bytes =>
    exact congrArg Except.ok (behind_push nodes distance assembly (.leaf span (.literal bytes))).symm
  | tag body =>
    have spelling : Reports OwnFault (Tag.ofBody body) :=
      reports_wider (reports_of_body body) fun _ => .spelling
    refine carries_map_error (carries_bind (carries_of_reports spelling) fun tag => ?_) fun _ => rfl
    have directive : Carries (behind nodes distance) (moveFault distance)
        ((Directive.ofTag policy tag).bind (assembly.apply span))
        ((Directive.ofTag policy tag).bind
          ((behind nodes distance assembly).apply (moveSpan distance span))) :=
      carries_bind (carries_of_reports (reports_of_tag policy tag))
        (carries_apply nodes distance assembly span)
    by_cases branch : tag.name = "elif"
    · simp only [id, branch, if_true]
      exact carries_bind (carries_check_branch nodes distance assembly "elif") fun _ => directive
    · simp only [id, branch, if_false]
      exact directive

theorem carries_finish :
    Carries (fun more => nodes ++ moveNodes distance more) (moveError distance) assembly.finish
      (behind nodes distance assembly).finish := by
  obtain ⟨root, frames⟩ := assembly
  rcases frames with _ | ⟨⟨opener, condition, body, elifs, last⟩ | ⟨opener, name, body⟩, outer⟩ <;>
    rfl

end

/-! ## Where a run stops -/

/-- A run that fails fails at a tag, after taking all fragments before it. -/
theorem tag_of_fold_error {list : List Fragment} {assembly : Assembly}
    (failed : (place start list).foldlM (Assembly.take policy) assembly = .error error) :
    ∃ before body after span middle fault, list = before ++ .tag body :: after ∧
      span = ⟨start + Fragments.size before,
        start + Fragments.size before + (Fragment.tag body).size⟩ ∧
      (place start before).foldlM (Assembly.take policy) assembly = .ok middle ∧
      middle.takeTag policy span body = .error fault ∧ error = ⟨span.start, fault⟩ := by
  induction list generalizing start assembly with
  | nil => cases failed
  | cons fragment list ih =>
    rw [place, List.foldlM_cons] at failed
    cases taken : assembly.take policy (⟨start, start + fragment.size⟩, fragment) with
    | ok next =>
      rw [taken] at failed
      obtain ⟨before, body, after, span, middle, fault, rfl, stands, folded, refused, rfl⟩ :=
        ih failed
      refine ⟨fragment :: before, body, after, span, middle, fault, rfl, ?_, ?_, refused, rfl⟩
      · simpa only [Fragments.size, Nat.add_assoc] using stands
      · rw [place, List.foldlM_cons, taken]
        exact folded
    | error stopped =>
      rw [taken] at failed
      cases failed
      cases fragment with
      | literal bytes => cases taken
      | tag body =>
        simp only [Assembly.take] at taken
        cases refused : assembly.takeTag policy ⟨start, start + (Fragment.tag body).size⟩ body with
        | ok next =>
          rw [refused] at taken
          cases taken
        | error fault =>
          rw [refused] at taken
          cases taken
          exact ⟨[], body, list, _, assembly, fault, rfl, rfl, rfl, refused, rfl⟩

/-- The openers of the frames that are open. -/
def openers (assembly : Assembly) : List Span := assembly.frames.map Frame.opener

theorem openers_push (assembly : Assembly) (node : Node) :
    openers (assembly.push node) = openers assembly := by
  obtain ⟨root, frames⟩ := assembly
  cases frames with
  | nil => rfl
  | cons frame outer =>
    have same : (frame.push node).opener = frame.opener := by
      fun_cases Frame.push node frame <;> rfl
    simp [openers, Assembly.push, same]

theorem openers_apply {assembly next : Assembly}
    (applied : assembly.apply span directive = .ok next) :
    ∀ opener ∈ openers next, opener ∈ openers assembly ∨ opener = span := by
  obtain ⟨root, frames⟩ := assembly
  intro opener member
  cases directive with
  | leaf content =>
    cases applied
    rw [openers_push] at member
    exact .inl member
  | startIf condition =>
    cases applied
    exact (List.mem_cons.1 member).symm
  | startBlock name =>
    cases applied
    exact (List.mem_cons.1 member).symm
  | elif test =>
    obtain ⟨_, _, applied⟩ := ok_of_bind applied
    split at applied
    · rename_i innermost
      obtain rfl : frames = _ := innermost
      cases applied
      exact .inl member
    · cases applied
      exact .inl member
  | otherwise =>
    obtain ⟨_, _, applied⟩ := ok_of_bind applied
    split at applied
    · rename_i innermost
      obtain rfl : frames = _ := innermost
      cases applied
      exact .inl member
    · cases applied
      exact .inl member
  | endIf =>
    simp only [Assembly.apply] at applied
    split at applied
    · cases applied
      rw [openers_push] at member
      exact .inl (List.mem_cons_of_mem _ member)
    · cases applied
  | endBlock =>
    simp only [Assembly.apply] at applied
    split at applied
    · cases applied
      rw [openers_push] at member
      exact .inl (List.mem_cons_of_mem _ member)
    · cases applied

theorem apply_of_take_tag {assembly next : Assembly}
    (taken : assembly.takeTag policy span body = .ok next) :
    ∃ directive, assembly.apply span directive = .ok next := by
  obtain ⟨tag, _, checked⟩ := ok_of_bind taken
  by_cases branch : tag.name = "elif"
  · simp only [branch, if_true] at checked
    obtain ⟨_, _, read⟩ := ok_of_bind checked
    obtain ⟨directive, _, applied⟩ := ok_of_bind read
    exact ⟨directive, applied⟩
  · simp only [branch, if_false] at checked
    obtain ⟨directive, _, applied⟩ := ok_of_bind checked
    exact ⟨directive, applied⟩

/-- What is open was opened by a tag that has been taken. -/
theorem openers_fold {assembly last : Assembly} {entries : List (Span × Fragment)}
    (folded : entries.foldlM (Assembly.take policy) assembly = .ok last) :
    ∀ opener ∈ openers last, opener ∈ openers assembly ∨ ∃ body, (opener, .tag body) ∈ entries := by
  induction entries generalizing assembly with
  | nil =>
    cases folded
    exact fun opener member => .inl member
  | cons entry entries ih =>
    obtain ⟨next, taken, folded⟩ := ok_of_bind folded
    intro opener member
    rcases ih folded opener member with before | ⟨body, after⟩
    · obtain ⟨span, fragment⟩ := entry
      cases fragment with
      | literal bytes =>
        cases taken
        rw [openers_push] at before
        exact .inl before
      | tag body =>
        obtain ⟨directive, applied⟩ := apply_of_take_tag (ok_of_map_error taken)
        rcases openers_apply applied opener before with before | rfl
        · exact .inl before
        · exact .inr ⟨body, List.mem_cons_self⟩
    · exact .inr ⟨body, List.mem_cons_of_mem _ after⟩

theorem opener_of_place_fault {assembly : Assembly} (fault : PlaceFault assembly reported)
    (names : openerStart? reported = some start) :
    ∃ opener ∈ openers assembly, opener.start = start := by
  cases fault with
  | unmatched closed => cases names
  | mismatched innermost =>
    cases names
    exact ⟨_, List.mem_map_of_mem (List.mem_of_mem_head? innermost), rfl⟩
  | afterElse innermost =>
    cases names
    exact ⟨_, List.mem_map_of_mem (List.mem_of_mem_head? innermost), rfl⟩

/-- Faults of a tag by itself name no opener, and are no faults of the end of a document. -/
theorem of_own_fault (own : OwnFault fault) :
    openerStart? fault = none ∧ fault ≠ .unterminated ∧ ∀ kind, fault ≠ .unclosed kind := by
  cases own with
  | spelling own => cases own <;> exact ⟨rfl, nofun, nofun⟩
  | unknown => exact ⟨rfl, nofun, nofun⟩
  | duplicate => exact ⟨rfl, nofun, nofun⟩
  | value own => cases own <;> exact ⟨rfl, nofun, nofun⟩

theorem of_place_fault {assembly : Assembly} (own : PlaceFault assembly fault) :
    fault ≠ .unterminated ∧ ∀ kind, fault ≠ .unclosed kind := by
  cases own <;> exact ⟨nofun, nofun⟩

/-- Fragments that stand before a place end before it. -/
theorem stop_le_of_mem_place (member : (span, fragment) ∈ place 0 before) :
    span.stop ≤ Fragments.size before := by
  obtain ⟨earlier, later, rfl, rfl⟩ := mem_place member
  rw [size_append]
  simp only [Fragments.size]
  omega

/-! ## Documents -/

/-- What a reader does when all fragments are taken. -/
def ending (document : Bytes) (assembly : Assembly) : Except ParseError (List Node) :=
  match (scan document).unterminated? with
  | some offset => .error ⟨offset, .unterminated⟩
  | none => assembly.finish

theorem parse_eq (policy : AttributePolicy) (document : Bytes) :
    Document.parse policy document =
      ((scan document).placed.foldlM (Assembly.take policy) .empty).bind (ending document) := rfl

theorem carries_ending (nodes : List Node) (assembly : Assembly) (whole : (scan first).rest = [])
    (joins : Joins first second) :
    Carries (fun more => nodes ++ moveNodes first.length more) (moveError first.length)
      (ending second assembly) (ending (first ++ second) (behind nodes first.length assembly)) := by
  unfold ending
  rw [unterminated_append whole joins]
  cases (scan second).unterminated? with
  | some offset => rfl
  | none => exact carries_finish nodes first.length assembly

/-- A document that is accepted ends with its last fragment, and leaves nothing open. -/
theorem run_of_parse (parsed : Document.parse policy document = .ok nodes) :
    (scan document).rest = [] ∧
      (scan document).placed.foldlM (Assembly.take policy) .empty = .ok ⟨nodes, []⟩ := by
  obtain ⟨⟨root, frames⟩, folded, finished⟩ := ok_of_bind parsed
  cases terminated : (scan document).unterminated? with
  | some offset =>
    simp only [terminated] at finished
    cases finished
  | none =>
    simp only [terminated] at finished
    cases frames with
    | cons frame outer => cases finished
    | nil =>
      cases finished
      exact ⟨by simpa [Fragments.unterminated?] using terminated, folded⟩

/-- A document behind one that is accepted is read as it is by itself. -/
theorem parse_append_of_ok (parsed : Document.parse policy first = .ok nodes)
    (joins : Joins first second) :
    Document.parse policy (first ++ second) =
      ((Document.parse policy second).map fun more =>
        nodes ++ moveNodes first.length more).mapError (moveError first.length) := by
  obtain ⟨whole, folded⟩ := run_of_parse parsed
  have start : (⟨nodes, []⟩ : Assembly) = behind nodes first.length .empty := by
    simp [behind, Assembly.empty, moveNodes]
  have ran : (scan (first ++ second)).placed.foldlM (Assembly.take policy) .empty =
      ((scan second).placed.map (moveEntry first.length)).foldlM (Assembly.take policy)
        (behind nodes first.length .empty) := by
    rw [placed_append whole joins, List.foldlM_append, folded, ← start]
    rfl
  rw [parse_eq, ran]
  exact carries_bind
    (carries_foldlM (fun assembly entry => carries_take nodes first.length assembly policy entry)
      (scan second).placed .empty)
    fun assembly => carries_ending nodes assembly whole joins

/-- The error of a tag is the error of every document that goes on in some way behind it. -/
theorem parse_append_of_stop
    (stopped : (scan first).placed.foldlM (Assembly.take policy) .empty = .error error)
    (second : Bytes) : Document.parse policy (first ++ second) = .error error := by
  obtain ⟨before, body, after, span, middle, fault, split, stands, folded, refused, rfl⟩ :=
    tag_of_fold_error stopped
  obtain ⟨same, cut⟩ := scan_cut first
  rw [split] at same cut
  -- the document up to the tag, which joins whatever follows
  obtain ⟨front, isFront⟩ : ∃ front, front = spelled (before ++ [.tag body]) [] := ⟨_, rfl⟩
  have scanned : scan front = ⟨before ++ [.tag body], []⟩ := isFront ▸ scan_of_cut (cut_front cut)
  have whole : (scan front).rest = [] := by rw [scanned]
  have placed : (scan front).placed = place 0 before ++ [(span, .tag body)] := by
    rw [Fragments.placed, scanned, place_append, stands]
    rfl
  have joins : ∀ others, Joins front others := by
    intro others
    refine .inr (.inl ⟨(span, .tag body), ?_, rfl⟩)
    rw [placed]
    exact List.getLast?_concat
  have spelling : first ++ second = front ++ (spelled after (scan first).rest ++ second) := by
    conv_lhs => rw [← same]
    simp [isFront, spelled]
  have taken : middle.take policy (span, .tag body) = .error ⟨span.start, fault⟩ := by
    simp only [Assembly.take, refused]
    rfl
  rw [spelling, parse_eq, placed_append whole (joins _), placed, List.foldlM_append,
    List.foldlM_append, folded]
  have ran : [(span, Fragment.tag body)].foldlM (Assembly.take policy) middle =
      .error ⟨span.start, fault⟩ := by
    rw [List.foldlM_cons, taken]
    rfl
  change ((([(span, Fragment.tag body)].foldlM (Assembly.take policy) middle) >>= _).bind _) = _
  rw [ran]
  rfl

/-- A document fails at a tag, for what it leaves unterminated, or for what it leaves open. -/
theorem parse_error_cases (failed : Document.parse policy document = .error error) :
    (scan document).placed.foldlM (Assembly.take policy) .empty = .error error ∨
      ∃ assembly, (scan document).placed.foldlM (Assembly.take policy) .empty = .ok assembly ∧
        ending document assembly = .error error := by
  rw [parse_eq] at failed
  cases folded : (scan document).placed.foldlM (Assembly.take policy) .empty with
  | error stopped =>
    rw [folded] at failed
    cases failed
    exact .inl rfl
  | ok assembly =>
    rw [folded] at failed
    exact .inr ⟨assembly, rfl, failed⟩

theorem located_of_stop
    (stopped : (scan document).placed.foldlM (Assembly.take policy) .empty = .error error) :
    Located document error := by
  obtain ⟨before, body, after, span, middle, fault, split, stands, folded, refused, rfl⟩ :=
    tag_of_fold_error stopped
  have placed : (scan document).placed = place 0 before ++
      (span, .tag body) :: place span.stop after := by
    rw [Fragments.placed, split, place_append, stands]
    rfl
  have here : (span, .tag body) ∈ (scan document).placed := by
    rw [placed]
    exact List.mem_append_right _ List.mem_cons_self
  rcases reports_take_tag middle policy span body fault refused with own | own
  · obtain ⟨none, terminated, _⟩ := of_own_fault own
    refine .inr ⟨terminated, ⟨span, body, here, rfl⟩, ?_⟩
    intro start names
    rw [none] at names
    cases names
  · refine .inr ⟨(of_place_fault own).1, ⟨span, body, here, rfl⟩, ?_⟩
    intro start names
    obtain ⟨opener, held, starts⟩ := opener_of_place_fault own names
    rcases openers_fold folded opener held with initial | ⟨inner, member⟩
    · cases initial
    · refine ⟨opener, inner, ?_, starts, ?_⟩
      · rw [placed]
        exact List.mem_append_left _ member
      · have bound := stop_le_of_mem_place member
        simpa [stands] using bound

theorem located_of_ending
    (folded : (scan document).placed.foldlM (Assembly.take policy) .empty = .ok assembly)
    (ended : ending document assembly = .error error) :
    Located document error ∧
      (error.fault = .unterminated ∨ ∃ kind, error.fault = .unclosed kind) := by
  unfold ending at ended
  cases terminated : (scan document).unterminated? with
  | some offset =>
    rw [terminated] at ended
    cases ended
    exact ⟨.inl ⟨rfl, terminated⟩, .inl rfl⟩
  | none =>
    rw [terminated] at ended
    obtain ⟨root, frames⟩ := assembly
    cases frames with
    | nil => cases ended
    | cons frame outer =>
      cases ended
      refine ⟨.inr ⟨nofun, ?_, nofun⟩, .inr ⟨_, rfl⟩⟩
      rcases openers_fold folded frame.opener List.mem_cons_self with initial | ⟨body, member⟩
      · cases initial
      · exact ⟨frame.opener, body, member, rfl⟩

/-- Reading is compositional, and errors of tags are final. A document behind one that is accepted and
that it joins is read as it is by itself, with the spans of its nodes and the places that its error
names moved by the length of the first; an error other than that of an unterminated tag or of a
construct left open stays whatever follows; and every error lies where a tag starts, and names the
opener of an earlier one. -/
theorem parse_append (policy : AttributePolicy) (first second : Bytes) :
    (∀ nodes, Document.parse policy first = .ok nodes → Joins first second →
      Document.parse policy (first ++ second) =
        ((Document.parse policy second).map fun more =>
          nodes ++ moveNodes first.length more).mapError (moveError first.length)) ∧
    (∀ error, Document.parse policy first = .error error → error.fault ≠ .unterminated →
      (∀ kind, error.fault ≠ .unclosed kind) →
        Document.parse policy (first ++ second) = .error error) ∧
    ∀ error, Document.parse policy first = .error error → Located first error := by
  refine ⟨fun nodes parsed joins => parse_append_of_ok parsed joins, ?_, ?_⟩
  · intro error failed terminated closed
    rcases parse_error_cases failed with stopped | ⟨assembly, folded, ended⟩
    · exact parse_append_of_stop stopped second
    · rcases (located_of_ending folded ended).2 with same | ⟨kind, same⟩
      · exact absurd same terminated
      · exact absurd same (closed kind)
  · intro error failed
    rcases parse_error_cases failed with stopped | ⟨assembly, folded, ended⟩
    · exact located_of_stop stopped
    · exact (located_of_ending folded ended).1

/-- A block that is closed by the wrong tag, behind a tag: the error and the opener that it names are
those of the block by itself, moved, and they stay what they are if the block is closed after all. -/
theorem parse_append_mismatched :
    ∃ nodes,
      Document.parse .strict (Bytes.ofText "<!--#echo var=\"a\" -->") = .ok nodes ∧
      Document.parse .strict (Bytes.ofText "<!--#block name=\"b\" --><!--#endif -->") =
        .error ⟨23, .mismatched "endif" .block 0⟩ ∧
      Document.parse .strict (Bytes.ofText "<!--#echo var=\"a\" -->" ++
        Bytes.ofText "<!--#block name=\"b\" --><!--#endif -->") =
          .error ⟨44, .mismatched "endif" .block 21⟩ ∧
      Document.parse .strict ((Bytes.ofText "<!--#echo var=\"a\" -->" ++
        Bytes.ofText "<!--#block name=\"b\" --><!--#endif -->") ++
          Bytes.ofText "<!--#endblock -->") = .error ⟨44, .mismatched "endif" .block 21⟩ := by
  obtain ⟨nodes, parsed, _⟩ := ok_of_to_option
    (show ((Document.parse .strict (Bytes.ofText "<!--#echo var=\"a\" -->")).toOption.map
      List.length) = some 1 by decide +kernel)
  have failed : Document.parse .strict (Bytes.ofText "<!--#block name=\"b\" --><!--#endif -->") =
      .error ⟨23, .mismatched "endif" .block 0⟩ := by decide +kernel
  have joins : Joins (Bytes.ofText "<!--#echo var=\"a\" -->")
      (Bytes.ofText "<!--#block name=\"b\" --><!--#endif -->") :=
    .inr (.inr (by decide +kernel))
  have moved := (parse_append .strict _ _).1 nodes parsed joins
  rw [failed] at moved
  have length : (Bytes.ofText "<!--#echo var=\"a\" -->").length = 21 := by decide +kernel
  have both : Document.parse .strict (Bytes.ofText "<!--#echo var=\"a\" -->" ++
      Bytes.ofText "<!--#block name=\"b\" --><!--#endif -->") =
        .error ⟨44, .mismatched "endif" .block 21⟩ := by
    rw [moved, length]
    rfl
  exact ⟨nodes, parsed, failed, both, (parse_append .strict _ _).2.1 _ both nofun nofun⟩

end ServerIncludes.Appending
