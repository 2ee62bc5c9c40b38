import ServerIncludes.Proofs.Document.Appending
import ServerIncludes.Proofs.Tag.Spelling

/-! A scanner that goes octet by octet, and takes every quote for one, agrees with the reader of tags,
who goes character by character and looks for quotes behind equals signs only. In a tag that the
scanner cut out, every value that the reader opens is closed. -/
namespace ServerIncludes.QuoteAgreement

open Appending ConditionLexing FaultSources Parts Scanning TagQuotes TagSpelling
open Fragment (opener closer)
open Fragments (scan place)
open Tag (isAttributeChar lower readValue readAttribute readAttributes)
open Unicode (isBlank)

/-! ## Values that are opened -/

/-- Text that ends within a value: no quote closes it, and its last backslash may have nothing to
protect. -/
inductive RunsOut : List Char → Prop where
  | missing (delimited : Delimited '"' text) : RunsOut text
  | backslash (delimited : Delimited '"' text) : RunsOut (text ++ ['\\'])

/-- A reader of attributes, who starts with the first text, comes to a value of which the second is
what stands behind its opening quote. -/
inductive OpensAttribute : List Char → List Char → Prop where
  | here (proper : AttributeForm.Proper form) : OpensAttribute (form.opening ++ rest) rest
  | later (proper : AttributeForm.Proper form) (spells : AttributeForm.Spells form item)
    (opens : OpensAttribute text rest) : OpensAttribute (form.text ++ text) rest

/-- A reader of tags comes to a value of which `rest` is what stands behind its opening quote. -/
inductive OpensValue : List Char → List Char → Prop where
  | tag (blank : ∀ c ∈ front, isBlank c = true) (nonempty : name ≠ [])
    (named : ∀ c ∈ name, c.isAlpha = true) (ends : ∀ c ∈ text.head?, c.isAlpha = false)
    (opens : OpensAttribute text rest) : OpensValue (front ++ (name ++ text)) rest

/-! ## Where the reader fails -/

theorem runs_out_of_readValue (failed : readValue text = none) : RunsOut text := by
  fun_induction readValue text with
  | case1 => exact .missing .nil
  | case2 => cases failed
  | case3 => exact .backslash .nil
  | case4 next rest _ ih =>
    cases ih (Option.map_eq_none_iff.1 failed) with
    | missing delimited => exact .missing (.escaped delimited)
    | backslash delimited => exact .backslash (.escaped delimited)
  | case5 c rest notQuote notBackslash ih =>
    cases ih (Option.map_eq_none_iff.1 failed) with
    | missing delimited => exact .missing (.plain notQuote notBackslash delimited)
    | backslash delimited => exact .backslash (.plain notQuote notBackslash delimited)

/-- Only behind an opening quote does the reader find a value without an end. -/
theorem opens_of_readAttribute (failed : readAttribute text = .error (.unterminated name))
    (blank : ∀ c ∈ gap, isBlank c = true) :
    ∃ form : AttributeForm, ∃ rest, gap ++ text = form.opening ++ rest ∧ form.Proper ∧
      readValue rest = none := by
  unfold readAttribute at failed
  simp only at failed
  split at failed
  · cases failed
  rename_i nonempty
  split at failed
  · rename_i behind equals
    split at failed
    · cases failed
    · rename_i rest quoted
      split at failed
      · rename_i unfinished
        obtain ⟨form, proper, -, -, -, whole⟩ :=
          opening_of_quoted blank (by simpa using nonempty) equals quoted []
        exact ⟨form, rest, whole, proper, unfinished⟩
      · cases failed
    · cases failed
  · cases failed

theorem opens_of_readAttributes (failed : readAttributes text = .error (.unterminated name)) :
    ∃ rest, OpensAttribute text rest ∧ readValue rest = none := by
  fun_induction readAttributes text with
  | case1 => cases failed
  | case2 text first rest trimmed fault found =>
    cases failed
    obtain ⟨form, rest, same, proper, unfinished⟩ := opens_of_readAttribute found
      fun c member => List.mem_takeWhile_imp (p := isBlank) (l := text) member
    rw [← trimmed, List.takeWhile_append_dropWhile] at same
    exact ⟨rest, same ▸ .here proper, unfinished⟩
  | case3 text first rest trimmed item after found shorter =>
    rename_i ih
    obtain ⟨form, gap, same, proper, spells⟩ := spells_of_readAttribute found
      fun c member => List.mem_takeWhile_imp (p := isBlank) (l := text) member
    have whole : text = form.text ++ after := by
      rw [AttributeForm.text, gap, List.append_assoc, ← same, ← trimmed,
        List.takeWhile_append_dropWhile]
    cases others : readAttributes after with
    | ok items =>
      rw [others] at failed
      cases failed
    | error fault =>
      rw [others] at failed
      cases failed
      obtain ⟨rest, opens, unfinished⟩ := ih others
      exact ⟨rest, whole ▸ .later proper spells opens, unfinished⟩

theorem opens_of_read
    (failed : Tag.read text = .error (.malformed directive (.unterminated name))) :
    ∃ rest, OpensValue text rest ∧ readValue rest = none := by
  unfold Tag.read at failed
  simp only at failed
  split at failed
  · cases failed
  rename_i nonempty
  split at failed
  · rename_i fault found
    cases failed
    obtain ⟨rest, opens, unfinished⟩ := opens_of_readAttributes found
    have whole := List.takeWhile_append_dropWhile (p := isBlank) (l := text)
    rw [← List.takeWhile_append_dropWhile (p := Char.isAlpha) (l := text.dropWhile isBlank)]
      at whole
    refine ⟨rest, whole ▸ .tag ?_ (by simpa using nonempty) ?_ ?_ opens, unfinished⟩
    · exact fun c member => List.mem_takeWhile_imp member
    · exact fun c member => List.mem_takeWhile_imp member
    · exact head_dropWhile Char.isAlpha _
  · cases failed

/-! ## Where the scanner stands -/

/-- Up to the quote that opens a value, every quote has been closed. -/
theorem inside_of_opening {form : AttributeForm} (proper : form.Proper) :
    afterChars .outside form.opening = .inside := by
  have split : form.opening =
      (form.gap ++ (form.name ++ (form.beforeEquals ++ (['='] ++ form.afterEquals)))) ++ ['"'] := by
    simp [AttributeForm.opening]
  rw [split, after_chars_append, (closed_front proper).outside]
  rfl

theorem inside_of_opens_attribute (opens : OpensAttribute text rest) :
    ∃ front, text = front ++ rest ∧ afterChars .outside front = .inside := by
  induction opens with
  | @here form rest proper => exact ⟨form.opening, rfl, inside_of_opening proper⟩
  | @later form item text rest proper spells opens ih =>
    obtain ⟨front, rfl, stands⟩ := ih
    refine ⟨form.text ++ front, (List.append_assoc ..).symm, ?_⟩
    rw [after_chars_append,
      (closed_attribute proper (delimited_of_spells spells.valued)).outside, stands]

/-- Whenever the reader opens a value, the scanner is inside quotes. -/
theorem inside_of_opens (opens : OpensValue text rest) :
    ∃ front, text = front ++ rest ∧ afterChars .outside front = .inside := by
  cases opens with
  | @tag front name text rest blank nonempty named ends opens =>
    obtain ⟨before, rfl, stands⟩ := inside_of_opens_attribute opens
    have letters : Closed name :=
      closed_of_kind (fun c member => attribute_char_of_alpha (named c member)) rfl rfl
    refine ⟨front ++ (name ++ before), by simp, ?_⟩
    rw [after_chars_append, (closed_of_kind blank rfl rfl).outside, after_chars_append,
      letters.outside, stands]

theorem not_outside_of_runs_out (runs : RunsOut text) : afterChars .inside text ≠ .outside := by
  cases runs with
  | missing delimited =>
    rw [inside_of_delimited delimited]
    nofun
  | backslash delimited =>
    rw [after_chars_append, inside_of_delimited delimited]
    nofun

/-- A tag that the scanner cut out ends outside of quotes. -/
theorem outside_of_scan (member : .tag body ∈ (scan document).list) :
    QuoteState.outside.after body = .outside := by
  obtain ⟨earlier, later, split⟩ := List.append_of_mem member
  have cut := (scan_cut document).2
  rw [split] at cut
  have closes := (cut_later cut).1.1.2
  rwa [List.append_assoc, List.take_left] at closes

theorem chars_of_text (spelled : Bytes.text? body = some text) :
    body = Bytes.ofChars text.toList := by
  unfold Bytes.text? String.fromUTF8? at spelled
  split at spelled
  · cases spelled
    have same : (Bytes.ofChars (String.fromUTF8 body.toByteArray ‹_›).toList).toByteArray =
        body.toByteArray := String.utf8Encode_toList
    exact (List.toByteArray_inj.1 same).symm
  · cases spelled

theorem not_runs_out_of_opens (member : .tag body ∈ (scan document).list)
    (spelled : Bytes.text? body = some text) (opens : OpensValue text.toList rest) :
    ¬ RunsOut rest := by
  intro runs
  obtain ⟨front, split, stands⟩ := inside_of_opens opens
  have ends := outside_of_scan member
  rw [chars_of_text spelled, after_of_chars, split, after_chars_append, stands] at ends
  exact not_outside_of_runs_out runs ends

/-! ## What a document is refused for -/

/-- Behind its octets, nothing in a tag is at fault that has to do with how it is spelled. -/
theorem reports_unspelled (policy : AttributePolicy) (tag : Tag) :
    Reports (fun fault => ¬ SpellingFault fault) (Directive.ofTag policy tag) := by
  have read : ∀ attributes,
      Reports (fun fault => ¬ SpellingFault fault) (Directive.ofAttributes attributes) := by
    intro attributes fault failed spelling
    cases spelling <;> cases reports_of_attributes attributes _ failed
  have accept : ∀ allowed items item, Reports (fun fault => ¬ SpellingFault fault)
      (AcceptedAttributes.accept policy tag.name allowed items item) := by
    intro allowed items item
    refine reports_ite ?_ (reports_ite (reports_error nofun) (reports_ok _))
    cases policy with
    | strict => exact reports_error nofun
    | lenient => exact reports_ok _
  unfold Directive.ofTag
  split
  · exact read _
  · exact reports_bind (reports_map (reports_foldlM (accept _) _ _) _) read

theorem place_fault_unspelled {assembly : Assembly} (own : PlaceFault assembly fault) :
    ¬ SpellingFault fault := by
  intro spelling
  cases spelling <;> cases own

theorem reports_behind_body (assembly : Assembly) (policy : AttributePolicy) (span : Span)
    (read : Tag.ofBody body = .ok tag) :
    Reports (fun fault => ¬ SpellingFault fault) (assembly.takeTag policy span body) := by
  have place : Reports (fun fault => ¬ SpellingFault fault) (assembly.checkBranch "elif") :=
    reports_wider (reports_check_branch assembly "elif") fun _ => place_fault_unspelled
  have directive : Reports (fun fault => ¬ SpellingFault fault)
      ((Directive.ofTag policy tag).bind fun directive => assembly.apply span directive) :=
    reports_bind (reports_unspelled policy tag) fun directive =>
      reports_wider (reports_apply assembly span directive) fun _ => place_fault_unspelled
  rw [Assembly.takeTag, read]
  exact reports_ite (reports_bind place fun _ => directive) directive

theorem body_of_spelling_fault {assembly : Assembly}
    (refused : assembly.takeTag policy span body = .error fault) (spelling : SpellingFault fault) :
    Tag.ofBody body = .error fault := by
  cases read : Tag.ofBody body with
  | error error =>
    rw [Assembly.takeTag, read] at refused
    cases refused
    rfl
  | ok tag => exact absurd spelling (reports_behind_body assembly policy span read fault refused)

theorem text_of_unterminated
    (failed : Tag.ofBody body = .error (.malformedAttribute directive (.unterminated name))) :
    ∃ text, Bytes.text? body = some text ∧
      Tag.read text.toList = .error (.malformed directive (.unterminated name)) := by
  unfold Tag.ofBody at failed
  split at failed
  · cases failed
  · rename_i text spelled
    split at failed
    · cases failed
    · rename_i found
      cases failed
      exact ⟨text, spelled, found⟩
    · cases failed

/-- What a document is refused for before its end, it is refused for at one of its tags. -/
theorem tag_of_spelling_fault
    (failed : Document.parse policy document = .error ⟨offset, fault⟩)
    (spelling : SpellingFault fault) :
    ∃ body, .tag body ∈ (scan document).list ∧ Tag.ofBody body = .error fault := by
  rcases parse_error_cases failed with stopped | ⟨assembly, -, ended⟩
  · obtain ⟨before, body, after, span, middle, _, split, -, -, refused, same⟩ :=
      tag_of_fold_error stopped
    cases same
    refine ⟨body, ?_, body_of_spelling_fault refused spelling⟩
    rw [split]
    exact List.mem_append_right _ List.mem_cons_self
  · unfold ending at ended
    split at ended
    · cases ended
      cases spelling
    · unfold Assembly.finish at ended
      split at ended
      · cases ended
      · cases ended
        cases spelling

/-- In every tag of a document that is text, each value that the reader opens is closed: the tag does
not end in it, nor at a backslash in it. So no tag is refused for a value without an end, and no
document is. -/
theorem quotes_agree (document : Bytes) :
    (∀ body text, .tag body ∈ (scan document).list → Bytes.text? body = some text →
      (∀ rest, OpensValue text.toList rest → ¬ RunsOut rest ∧ (readValue rest).isSome) ∧
        ∀ directive name,
          Tag.read text.toList ≠ .error (.malformed directive (.unterminated name))) ∧
      ∀ policy offset directive name,
        Document.parse policy document ≠
          .error ⟨offset, .malformedAttribute directive (.unterminated name)⟩ := by
  have closed : ∀ body text, .tag body ∈ (scan document).list → Bytes.text? body = some text →
      ∀ directive name,
        Tag.read text.toList ≠ .error (.malformed directive (.unterminated name)) := by
    intro body text member spelled directive name failed
    obtain ⟨rest, opens, unfinished⟩ := opens_of_read failed
    exact not_runs_out_of_opens member spelled opens (runs_out_of_readValue unfinished)
  refine ⟨fun body text member spelled => ⟨fun rest opens => ?_, closed body text member spelled⟩,
    ?_⟩
  · have finished := not_runs_out_of_opens member spelled opens
    refine ⟨finished, Option.isSome_iff_ne_none.2 fun failed => ?_⟩
    exact finished (runs_out_of_readValue failed)
  · intro policy offset directive name failed
    obtain ⟨body, member, refused⟩ := tag_of_spelling_fault failed .malformed
    obtain ⟨text, spelled, read⟩ := text_of_unterminated refused
    exact closed body text member spelled directive name read

/-- A value with a quote, a character of two octets and a backslash behind a backslash. -/
def quoteTag : String := " echo var=\"\\\"é\\\\\" "

theorem opens_quote_tag : OpensValue quoteTag.toList "\\\"é\\\\\" ".toList := by
  let form : AttributeForm := ⟨[' '], "var".toList, [], [], []⟩
  have proper : form.Proper :=
    ⟨List.all_eq_true.1 (by decide), by decide, List.all_eq_true.1 (by decide),
      List.forall_mem_nil _, List.forall_mem_nil _⟩
  have whole : quoteTag.toList =
      [' '] ++ ("echo".toList ++ (form.opening ++ "\\\"é\\\\\" ".toList)) := by decide
  rw [whole]
  refine .tag (List.all_eq_true.1 (by decide)) (by decide) (List.all_eq_true.1 (by decide)) ?_
    (.here proper)
  rintro c ⟨⟩
  rfl

theorem quote_tag_quotes_agree :
    .tag (Bytes.ofText quoteTag) ∈
        (scan (Bytes.ofText ("a<!--#" ++ quoteTag ++ "-->b"))).list ∧
      Bytes.text? (Bytes.ofText quoteTag) = some quoteTag ∧
      ((∀ rest, OpensValue quoteTag.toList rest → ¬ RunsOut rest ∧ (readValue rest).isSome) ∧
        ∀ directive name,
          Tag.read quoteTag.toList ≠ .error (.malformed directive (.unterminated name))) ∧
      ¬ RunsOut "\\\"é\\\\\" ".toList := by
  have member : .tag (Bytes.ofText quoteTag) ∈
      (scan (Bytes.ofText ("a<!--#" ++ quoteTag ++ "-->b"))).list := by decide +kernel
  have spelled : Bytes.text? (Bytes.ofText quoteTag) = some quoteTag := by
    rw [Bytes.ofText, text_of_chars, String.ofList_toList]
  have agree := (quotes_agree _).1 _ _ member spelled
  exact ⟨member, spelled, agree, (agree.1 _ opens_quote_tag).1⟩

end ServerIncludes.QuoteAgreement
