import Serbero.Solver.Parts

/-! # Redaction in solver messages

Which words of a solver message can be Nostr identifiers that come from a party. In a line there is
none. A line longer than a part is cut by length, and a cut inside a longer word can leave one that
looks like an identifier. -/

namespace Serbero

namespace SolverText

/-- A letter or digit of a message. -/
def Mark.isAlphanum (mark : Mark) : Bool := mark.char.isAlphanum

/-- A maximal run of letters and digits of a message, with its origins. -/
abbrev IsMarkedWord (word text : Marked) : Prop := Runs.IsRun Mark.isAlphanum word text

/-- A word with supplied text in it that is an identifier. -/
def Leaks (nip19 : List Char → Bool) (word : Marked) : Prop :=
  (∃ mark ∈ word, mark.origin = .supplied) ∧ Identifies nip19 (word.map Mark.char)

/-- A message in which no identifier comes from outside. -/
def Redacted (nip19 : List Char → Bool) (text : Marked) : Prop :=
  ∀ word, IsMarkedWord word text → ¬Leaks nip19 word

/-- A part that shows these pieces of these lines: an identifier that comes from outside is cut out
of a longer word of a line that the part does not show whole. -/
def RedactedUpToCuts (nip19 : List Char → Bool) (rendered : List Marked)
    (shown : List (Nat × Marked)) (part : Marked) : Prop :=
  ∀ word, IsMarkedWord word part → Leaks nip19 word →
    ∃ piece ∈ shown, ∃ line ∈ rendered[piece.1]?, piece.2 ≠ line ∧ IsMarkedWord word piece.2 ∧
      ∃ longer, IsMarkedWord longer line ∧ word <:+: longer ∧ word.length < longer.length

/-- The parts of a message with these lines, each under a header of Serbero's own: only a line longer
than a part is cut, and only parts of such a line show an identifier that comes from outside. -/
def SplitRedacted (nip19 : List Char → Bool) (budget : Nat) (rendered parts : List Marked) : Prop :=
  ∃ bodies cuts pieces, Packing.Layout newline budget rendered bodies cuts pieces ∧
    List.Forall₂ (fun part body => ∃ header : Marked,
      (∀ mark ∈ header, mark.origin = .composed) ∧ part = header ++ newline :: body) parts bodies ∧
    List.Forall₂ (RedactedUpToCuts nip19 rendered) pieces parts

section law

variable {nip19 : List Char → Bool}

/-! ## Lines -/

/-- Serbero's own text leaks nothing. -/
theorem redacted_of_composed {text : Marked} (h : ∀ mark ∈ text, mark.origin = .composed) :
    Redacted nip19 text := by
  rintro word hword ⟨⟨mark, hmark, horigin⟩, -⟩
  rw [h mark (hword.part.subset hmark)] at horigin
  cases horigin

/-- Every mark of a composed text is Serbero's. -/
theorem origin_of_mem_composed {text : String} {mark : Mark} (h : mark ∈ composed text) :
    mark.origin = .composed := by
  obtain ⟨char, -, rfl⟩ := List.mem_map.mp h
  rfl

/-- A composed text shows nothing that has to be redacted. -/
theorem redacted_composed (text : String) : Redacted nip19 (composed text) :=
  redacted_of_composed fun _ => origin_of_mem_composed

/-- Two texts with something between them that is no letter or digit. -/
theorem Redacted.append_cons {before after : Marked} {mark : Mark} (hmark : mark.isAlphanum = false)
    (hbefore : Redacted nip19 before) (hafter : Redacted nip19 after) :
    Redacted nip19 (before ++ mark :: after) := by
  intro word hword
  rcases (Runs.isRun_append_cons_iff hmark).mp hword with h | h
  · exact hbefore word h
  · exact hafter word h

/-- A mark between words may stand before a redacted text. -/
theorem Redacted.cons {text : Marked} {mark : Mark} (hmark : mark.isAlphanum = false)
    (h : Redacted nip19 text) : Redacted nip19 (mark :: text) := by
  have hnil : Redacted nip19 [] := redacted_of_composed fun mark hmem => absurd hmem List.not_mem_nil
  exact hnil.append_cons hmark h

/-- Serbero's own text around a text, where it ends and begins with no letter or digit. -/
theorem Redacted.between {text : Marked} (h : Redacted nip19 text) (before after : String)
    (hbefore : ∀ c ∈ before.toList.getLast?, c.isAlphanum = false) (hne : before ≠ "")
    (hafter : ∀ c ∈ after.toList.head?, c.isAlphanum = false) :
    Redacted nip19 (composed before ++ text ++ composed after) := by
  have hend : Redacted nip19 (text ++ composed after) := by
    rw [composed]
    cases hlist : after.toList with
    | nil =>
      rw [List.map_nil, List.append_nil]
      exact h
    | cons first rest =>
      rw [hlist] at hafter
      refine h.append_cons (hafter first rfl) (redacted_of_composed fun mark hmark => ?_)
      obtain ⟨char, -, rfl⟩ := List.mem_map.mp hmark
      rfl
  rcases List.eq_nil_or_concat before.toList with hnil | ⟨start, last, hlist⟩
  · exact absurd (String.toList_eq_nil_iff.mp hnil) hne
  · rw [List.concat_eq_append] at hlist
    rw [hlist] at hbefore
    rw [composed, hlist, List.map_append, List.map_singleton, List.append_assoc, List.append_assoc]
    refine Redacted.append_cons (hbefore last (by simp)) (redacted_of_composed fun mark hmark => ?_)
      hend
    obtain ⟨char, -, rfl⟩ := List.mem_map.mp hmark
    rfl

/-- What a character of a party's text becomes. -/
def shown (char : Char) : Marked :=
  if char = '\n' then ⟨'\n', .supplied⟩ :: indentation else [⟨char, .supplied⟩]

/-- Tokens of a text with indented continuations are tokens of the text. -/
theorem map_char_of_mem_tokensFrom {token : Marked} (hne : token ≠ [])
    (htoken : ∀ mark ∈ token, mark.isAlphanum = true) {text : List Char} {word : Marked}
    (hmem : token ∈ Runs.tokensFrom Mark.isAlphanum word (text.flatMap shown)) :
    token.map Mark.char ∈ Runs.tokensFrom Char.isAlphanum (word.map Mark.char) text := by
  -- What is no letter or digit is no token of letters and digits.
  have hother : ∀ mark : Mark, mark.isAlphanum = false → token ≠ [mark] := by
    rintro mark hmark rfl
    rw [htoken mark List.mem_cons_self] at hmark
    cases hmark
  -- A mark that is none ends the word read so far.
  have hends : ∀ (mark : Mark) (word rest : Marked), mark.isAlphanum = false →
      token ∈ Runs.tokensFrom Mark.isAlphanum word (mark :: rest) →
        token = word ∨ token ∈ Runs.tokensFrom Mark.isAlphanum [] rest := by
    intro mark word rest hmark hmem
    rw [Runs.tokensFrom, hmark, if_neg Bool.false_ne_true] at hmem
    refine (List.mem_cons.mp hmem).imp_right fun hmem => ?_
    exact (List.mem_cons.mp hmem).resolve_left (hother mark hmark)
  induction text generalizing word with
  | nil =>
    rw [List.mem_singleton.mp hmem]
    exact List.mem_singleton_self _
  | cons char rest ih =>
    rw [List.flatMap_cons, shown] at hmem
    rw [Runs.tokensFrom]
    by_cases hnewline : char = '\n'
    · subst hnewline
      rw [if_pos rfl, indentation] at hmem
      rw [if_neg (by decide)]
      rcases hends _ _ _ (by decide) hmem with rfl | hmem
      · exact List.mem_cons_self
      · have hmem := (hends _ _ _ (by decide) hmem).resolve_left hne
        have hmem := (hends _ _ _ (by decide) hmem).resolve_left hne
        exact List.mem_cons_of_mem _ (List.mem_cons_of_mem _ (ih hmem))
    · rw [if_neg hnewline, List.singleton_append] at hmem
      by_cases halnum : char.isAlphanum = true
      · rw [Runs.tokensFrom, if_pos (show Mark.isAlphanum ⟨char, .supplied⟩ = true from halnum)]
          at hmem
        rw [if_pos halnum]
        have hnext := ih hmem
        rwa [List.map_append] at hnext
      · rw [if_neg halnum]
        have hmark : Mark.isAlphanum ⟨char, .supplied⟩ = false := Bool.eq_false_iff.mpr halnum
        rcases hends _ _ _ hmark hmem with rfl | hmem
        · exact List.mem_cons_self
        · exact List.mem_cons_of_mem _ (List.mem_cons_of_mem _ (ih hmem))

/-- Party text as solvers see it. -/
theorem redacted_verbatim (law : Nip19Words nip19) (text : String) :
    Redacted nip19 (verbatim nip19 text) := by
  rintro word hword ⟨-, hidentifies⟩
  have hmem : word ∈ Runs.tokensFrom Mark.isAlphanum [] ((redact nip19 text).toList.flatMap shown) :=
    Runs.mem_tokens_of_isRun hword
  have hmem := map_char_of_mem_tokensFrom hword.1 hword.2.1 hmem
  have hclean := clean_redactFrom law (fun c hc => absurd hc List.not_mem_nil) text.toList
  rw [redact, String.toList_ofList] at hmem
  refine hclean _ (Runs.isRun_of_mem_tokens ?_ ?_ hmem) hidentifies
  · simpa using hword.1
  · intro c hc
    obtain ⟨mark, hmark, rfl⟩ := List.mem_map.mp hc
    exact hword.2.1 mark hmark

/-- A note on attachments is set apart from the text before it. -/
theorem head_attachmentsNote (count : Nat) :
    ∀ c ∈ (attachmentsNote count).toList.head?, c.isAlphanum = false := by
  intro c hc
  match count with
  | 0 => simp [attachmentsNote] at hc
  | 1 =>
    have hspace : (attachmentsNote 1).toList.head? = some ' ' := by decide +kernel
    rw [hspace, Option.mem_some_iff] at hc
    rw [← hc]
    decide
  | n + 2 =>
    have hspace : (attachmentsNote (n + 2)).toList.head? = some ' ' := by
      rw [attachmentsNote.eq_3 _ (by omega) (by omega), String.toList_append, String.toList_append]
      rfl
    rw [hspace, Option.mem_some_iff] at hc
    rw [← hc]
    decide

/-- A line of the transcript. -/
theorem redacted_transcriptLine (law : Nip19Words nip19) (line : Line) :
    Redacted nip19 (transcriptLine nip19 line) := by
  rw [transcriptLine]
  refine (redacted_verbatim law line.text).between _ _ (fun c hc => ?_) (fun h => ?_)
    (head_attachmentsNote line.attachments)
  · rw [String.toList_append, List.getLast?_append] at hc
    have hspace : c = ' ' := by simpa using hc.symm
    rw [hspace]
    decide
  · have hlength := congrArg String.length h
    simp [String.length_append] at hlength

/-- A quote in the brief. -/
theorem redacted_quote (law : Nip19Words nip19) {state : JudgeState} {id : String} {line : Marked}
    (h : quote nip19 state id = some line) : Redacted nip19 line := by
  obtain ⟨found, -, rfl⟩ := Option.map_eq_some_iff.mp h
  have hnote : composed "\"" ++ composed (attachmentsNote found.2) =
      composed ("\"" ++ attachmentsNote found.2) := by
    rw [composed, composed, composed, String.toList_append, List.map_append]
  have hhead : ∀ c ∈ ("\"" ++ attachmentsNote found.2).toList.head?, c.isAlphanum = false := by
    intro c hc
    rw [String.toList_append] at hc
    have hquote : c = '"' := by simpa using hc.symm
    rw [hquote]
    decide
  have hquoted := (redacted_verbatim law found.1).between "\"" _ (by simp) (by decide) hhead
  rw [← hnote] at hquoted
  have hindented := (hquoted.cons (show Mark.isAlphanum ⟨' ', .indented⟩ = false by decide)).cons
    (show Mark.isAlphanum ⟨' ', .indent⟩ = false by decide)
  simpa [indentation] using hindented

/-- What a reading shows. -/
theorem redacted_of_mem_readingLines (law : Nip19Words nip19) {reading : Reading} {line : Marked}
    (h : line ∈ readingLines nip19 reading) : Redacted nip19 line := by
  have hnil : Redacted nip19 [] := redacted_of_composed fun mark hmem => absurd hmem List.not_mem_nil
  have hquote : ∀ {ids : List String}, line ∈ ids.filterMap (quote nip19 reading.state) →
      Redacted nip19 line := by
    intro ids hmem
    obtain ⟨id, -, hid⟩ := List.mem_filterMap.mp hmem
    exact redacted_quote law hid
  simp only [readingLines, List.mem_append, List.mem_cons, List.not_mem_nil, or_false] at h
  rcases h with (((((rfl | h) | rfl) | h) | rfl | rfl) | h) | h
  · exact redacted_composed _
  · exact hquote h
  · exact redacted_composed _
  · exact hquote h
  · exact hnil
  · exact redacted_composed _
  · obtain ⟨found, -, rfl⟩ := List.mem_map.mp h
    exact (redacted_verbatim law found.1).between "First to read: \"" "\"" (by simp)
      (by decide) (by simp)
  · split at h
    · rcases List.mem_cons.mp h with rfl | h
      · exact hnil
      · rcases List.mem_cons.mp h with rfl | h
        · exact redacted_composed _
        · rw [List.mem_singleton.mp h]
          exact redacted_composed _
    · exact absurd h List.not_mem_nil

/-- The brief leaks nothing but what the order line does. -/
theorem isMarkedWord_orderLine (law : Nip19Words nip19) {input : BriefInput} {word : Marked}
    (hword : IsMarkedWord word (brief nip19 input)) (hleaks : Leaks nip19 word) :
    ∃ order ∈ orderLine input.order, IsMarkedWord word order := by
  obtain ⟨line, hline, hrun⟩ := Runs.exists_isRun_of_intercalate (by decide) hword
  have hnil : Redacted nip19 [] := redacted_of_composed fun mark hmem => absurd hmem List.not_mem_nil
  simp only [briefLines, List.mem_append, List.mem_cons, List.not_mem_nil, or_false,
    Option.mem_toList] at hline
  rcases hline with ((((rfl | rfl) | h) | rfl | rfl) | h) | rfl | rfl
  · exact absurd hleaks (redacted_composed _ word hrun)
  · split at hrun <;> exact absurd hleaks (redacted_composed _ word hrun)
  · exact ⟨line, h, hrun⟩
  · exact absurd hleaks (redacted_composed _ word hrun)
  · exact absurd hleaks (hnil word hrun)
  · split at h
    · exact absurd hleaks (redacted_of_mem_readingLines law h word hrun)
    · rw [List.mem_singleton.mp h] at hrun
      exact absurd hleaks (redacted_composed _ word hrun)
  · exact absurd hleaks (hnil word hrun)
  · exact absurd hleaks (redacted_composed _ word hrun)

/-! ## Parts -/

/-- A part: a header of Serbero's own, and what it shows of the lines. -/
theorem redactedUpToCuts_part (law : Nip19Words nip19) {lines : List Line} {budget : Nat}
    {bodies : List Marked} {cuts : List (List Marked)} {pieces : List (List (Nat × Marked))}
    (hlayout : Packing.Layout newline budget (lines.map (transcriptLine nip19)) bodies cuts pieces)
    {header : Marked} (hheader : ∀ mark ∈ header, mark.origin = .composed)
    {shown : List (Nat × Marked)} (hshown : shown ∈ pieces) :
    RedactedUpToCuts nip19 (lines.map (transcriptLine nip19)) shown
      (header ++ newline :: Packing.joined newline shown) := by
  intro word hword hleaks
  rcases (Runs.isRun_append_cons_iff (by decide)).mp hword with h | h
  · exact absurd hleaks (redacted_of_composed hheader word h)
  · obtain ⟨text, htext, hrun⟩ := Runs.exists_isRun_of_intercalate (by decide) h
    obtain ⟨piece, hpiece, rfl⟩ := List.mem_map.mp htext
    obtain ⟨line, hline, hpart, -⟩ := hlayout.part hshown hpiece
    -- A whole word of a line leaks nothing.
    have hredacted : Redacted nip19 line := by
      obtain ⟨message, -, rfl⟩ := List.mem_map.mp (List.mem_of_getElem? hline)
      exact redacted_transcriptLine law message
    obtain ⟨longer, hlonger, hword⟩ := Runs.exists_isRun_of_infix h.1 h.2.1 (hrun.part.trans hpart)
    refine ⟨piece, hpiece, line, hline, fun heq => ?_, hrun, longer, hlonger, hword,
      lt_of_le_of_ne hword.length_le fun hlength => ?_⟩
    · rw [heq] at hrun
      exact hredacted word hrun hleaks
    · rw [hword.eq_of_length hlength] at hleaks
      exact hredacted longer hlonger hleaks

/-- The bodies of a split message, each under its header. -/
theorem splitRedacted_chunk (law : Nip19Words nip19) {budget : Nat} (positive : 0 < budget)
    (lines : List Line) (header : Nat → Marked)
    (hheader : ∀ index, ∀ mark ∈ header index, mark.origin = .composed) :
    SplitRedacted nip19 budget (lines.map (transcriptLine nip19))
      ((chunk positive (lines.map (transcriptLine nip19))).zipIdx.map fun body =>
        header body.2 ++ newline :: body.1) := by
  obtain ⟨cuts, pieces, hlayout⟩ := @Packing.layout_pack _ newline budget
    (lines.map (transcriptLine nip19)) fun rendered hrendered => by
      obtain ⟨line, -, rfl⟩ := List.mem_map.mp hrendered
      exact transcriptLine_ne_nil nip19 line
  rw [← chunk_eq positive] at hlayout
  refine ⟨_, cuts, pieces, hlayout, ?_, ?_⟩
  · rw [List.forall₂_iff_get]
    refine ⟨by simp, fun i hpart hbody => ⟨header i, hheader i, ?_⟩⟩
    simp
  · rw [List.forall₂_iff_get]
    have hlength : pieces.length = (chunk positive (lines.map (transcriptLine nip19))).length := by
      rw [hlayout.bodies, List.length_map]
    refine ⟨by simp [hlength], fun i hpiece hpart => ?_⟩
    have hpart := redactedUpToCuts_part law hlayout (hheader i) (List.get_mem pieces ⟨i, hpiece⟩)
    convert hpart using 1
    simp [hlayout.bodies]

/-- **Where every line fits into a part**, the parts are redacted. -/
theorem SplitRedacted.redacted {budget : Nat} {rendered parts : List Marked}
    (h : SplitRedacted nip19 budget rendered parts)
    (hfits : ∀ line ∈ rendered, line.length ≤ budget) {part : Marked} (hpart : part ∈ parts) :
    Redacted nip19 part := by
  obtain ⟨bodies, cuts, pieces, hlayout, -, hparts⟩ := h
  intro word hword hleaks
  obtain ⟨i, rfl⟩ := List.get_of_mem hpart
  obtain ⟨hlength, hparts⟩ := List.forall₂_iff_get.mp hparts
  have hi : i < pieces.length := by omega
  obtain ⟨piece, hpiece, line, hline, hne, -⟩ := hparts i hi i.isLt word hword hleaks
  obtain ⟨same, hsame, -, hwhole⟩ := hlayout.part (List.get_mem pieces ⟨i, hi⟩) hpiece
  obtain rfl : same = line := Option.some.inj (hsame.symm.trans hline)
  exact hne (hwhole (hfits same (List.mem_of_getElem? hsame)))

/-- The transcript in one message. -/
theorem redacted_singleTranscript (law : Nip19Words nip19) (disputeId : String)
    (lines : List Line) : Redacted nip19 (singleTranscript nip19 disputeId lines) := by
  intro word hword
  obtain ⟨line, hline, hrun⟩ := Runs.exists_isRun_of_intercalate (by decide) hword
  rcases List.mem_cons.mp hline with rfl | hline
  · exact redacted_composed _ word hrun
  · obtain ⟨message, -, rfl⟩ := List.mem_map.mp hline
    exact redacted_transcriptLine law message word hrun

/-- A transcript: one message, or parts. -/
theorem splitRedacted_transcript (law : Nip19Words nip19) {disputeId : String} {lines : List Line}
    {parts : List Marked} (h : transcript nip19 disputeId lines = some parts) :
    (∀ part ∈ parts, Redacted nip19 part) ∨
      SplitRedacted nip19 (transcriptBudget disputeId lines.length)
        (lines.map (transcriptLine nip19)) parts := by
  unfold transcript at h
  split_ifs at h with hsingle positive
  · left
    rw [← Option.some.inj h]
    intro part hpart
    rw [List.mem_singleton.mp hpart]
    exact redacted_singleTranscript law disputeId lines
  · right
    rw [← Option.some.inj h]
    refine splitRedacted_chunk law positive lines (fun index => transcriptHeader disputeId
      lines.length (some (index + 1, (chunk positive (lines.map (transcriptLine nip19))).length)))
      fun index mark hmark => ?_
    rw [transcriptHeader] at hmark
    exact origin_of_mem_composed hmark

/-- An update: parts under one header. -/
theorem splitRedacted_update (law : Nip19Words nip19) {disputeId : String} {lines : List Line}
    {parts : List Marked} (h : update nip19 disputeId lines = some parts) :
    SplitRedacted nip19 (updateBudget disputeId lines.length)
      (lines.map (transcriptLine nip19)) parts := by
  unfold update at h
  split_ifs at h with positive
  have hsplit := splitRedacted_chunk law positive lines (fun _ => updateHeader disputeId lines.length)
    fun index mark hmark => by
      rw [updateHeader] at hmark
      exact origin_of_mem_composed hmark
  rw [← Option.some.inj h, ← List.zipIdx_map_fst 0 (chunk positive _), List.map_map]
  exact hsplit

end law

/-! ## The law -/

/-- What redaction does, from the stored content of a message to what the judge and the solvers
see. -/
structure RedactionLaw (nip19 : List Char → Bool) : Prop where
  words (text : String) : RedactsWords nip19 text.toList (redact nip19 text).toList
  idempotent (text : String) : redact nip19 (redact nip19 text) = redact nip19 text
  judged {session : Session} {openedBy : Initiator} {messages : List Message} {max index : Nat}
    {message : Message} {content : String} {entry : TranscriptEntry} : 0 < max →
      messages[index]? = some message → message.content = truncate content max →
      (buildState nip19 session openedBy messages max).transcript[index]? = some entry →
        Clean nip19 entry.text.toList
  lines (line : Line) : Redacted nip19 (transcriptLine nip19 line)
  reading {reading : Reading} {line : Marked} :
    line ∈ readingLines nip19 reading → Redacted nip19 line
  brief {input : BriefInput} {word : Marked} :
    IsMarkedWord word (brief nip19 input) → Leaks nip19 word →
      ∃ order ∈ orderLine input.order, IsMarkedWord word order
  single (disputeId : String) (lines : List Line) :
    Redacted nip19 (singleTranscript nip19 disputeId lines)
  transcriptFits {disputeId : String} {lines : List Line} {parts : List Marked} :
    (∀ line ∈ lines,
        (transcriptLine nip19 line).length ≤ transcriptBudget disputeId lines.length) →
      transcript nip19 disputeId lines = some parts → ∀ part ∈ parts, Redacted nip19 part
  updateFits {disputeId : String} {lines : List Line} {parts : List Marked} :
    (∀ line ∈ lines, (transcriptLine nip19 line).length ≤ updateBudget disputeId lines.length) →
      update nip19 disputeId lines = some parts → ∀ part ∈ parts, Redacted nip19 part
  transcript {disputeId : String} {lines : List Line} {parts : List Marked} :
    transcript nip19 disputeId lines = some parts →
      (∀ part ∈ parts, Redacted nip19 part) ∨
        SplitRedacted nip19 (transcriptBudget disputeId lines.length)
          (lines.map (transcriptLine nip19)) parts
  update {disputeId : String} {lines : List Line} {parts : List Marked} :
    update nip19 disputeId lines = some parts →
      SplitRedacted nip19 (updateBudget disputeId lines.length)
        (lines.map (transcriptLine nip19)) parts

/-- **Redaction end to end.** -/
theorem redaction_law {nip19 : List Char → Bool} (law : Nip19Words nip19) : RedactionLaw nip19 where
  words := redactsWords law
  idempotent := redact_redact law
  judged := by
    intro session openedBy messages max index message content entry _ hmessage hcontent hentry
    rw [transcript_buildState, List.getElem?_map, List.getElem?_zipIdx, hmessage, Option.map_some,
      Option.map_some, Option.some.injEq] at hentry
    rw [← hentry, transcriptEntry, hcontent]
    exact clean_truncate_redact law content max
  lines := redacted_transcriptLine law
  reading := redacted_of_mem_readingLines law
  brief := isMarkedWord_orderLine law
  single := redacted_singleTranscript law
  transcript := splitRedacted_transcript law
  update := splitRedacted_update law
  transcriptFits hfits h part hpart := by
    rcases splitRedacted_transcript law h with hall | hsplit
    · exact hall part hpart
    · exact hsplit.redacted (List.forall_mem_map.mpr hfits) hpart
  updateFits hfits h part hpart :=
    (splitRedacted_update law h).redacted (List.forall_mem_map.mpr hfits) hpart

/-- A public key, as clients show it. -/
def someNpub : String := "npub1sg6plzptd64u62a878hep2kev88swjh3tw00gjsfl8f237lmu63q0uf63m"

/-- With one key that parses. -/
theorem redaction_law_npub :
    RedactionLaw (fun word => word == someNpub.toList) ∧
      redact (fun word => word == someNpub.toList) ("mi clave es " ++ someNpub ++ ", ya pagué") =
        "mi clave es [redacted], ya pagué" := by
  refine ⟨redaction_law ⟨fun h => ?_, fun h => ?_⟩, by decide +kernel⟩
  · rw [eq_of_beq h]
    decide +kernel
  · rw [eq_of_beq h]
    decide +kernel

/-! ## A cut inside a word -/

/-- So many dots, and then a word of 65 zeros, which is no identifier. -/
def zerosAfter (dots : Nat) : String :=
  String.ofList (List.replicate dots '.' ++ List.replicate 65 '0')

/-- Dots are no words. -/
theorem clean_replicate_dots (dots : Nat) : Clean (fun _ => false) (List.replicate dots '.') := by
  intro word hword
  obtain ⟨c, rest, rfl⟩ := List.exists_cons_of_ne_nil hword.1
  have halnum := hword.2.1 c List.mem_cons_self
  rw [List.eq_of_mem_replicate (hword.part.subset List.mem_cons_self)] at halnum
  exact absurd halnum (by decide)

/-- The zeros are one word too long for a key. -/
theorem clean_zeros : Clean (fun _ => false) (List.replicate 65 '0') := by
  intro word hword hidentifies
  have hmem := Runs.mem_tokens_of_isRun hword
  rw [Runs.tokens_of_all fun entry hentry => by rw [List.eq_of_mem_replicate hentry]; rfl,
    List.mem_singleton] at hmem
  rw [hmem] at hidentifies
  rcases hidentifies with ⟨hlength, -⟩ | hnip19
  · exact absurd hlength (by decide)
  · exact Bool.false_ne_true hnip19

/-- After the dots the zeros stay as they were supplied. -/
theorem verbatim_zerosAfter (law : Nip19Words fun _ => false) (dots : Nat) :
    verbatim (fun _ => false) (zerosAfter (dots + 1)) =
      (List.replicate (dots + 1) '.' ++ List.replicate 65 '0').map fun c => ⟨c, .supplied⟩ := by
  have hclean : Clean (fun _ => false) (List.replicate (dots + 1) '.' ++ List.replicate 65 '0') := by
    rw [List.replicate_succ', List.append_assoc]
    exact (clean_replicate_dots dots).append_cons (by decide) clean_zeros
  rw [verbatim, redact, zerosAfter, String.toList_ofList, String.toList_ofList,
    redactFrom_of_clean law hclean, List.map_eq_flatMap]
  apply List.flatMap_congr
  intro c hc
  rw [if_neg]
  rintro rfl
  rcases List.mem_append.mp hc with h | h
  · exact absurd (List.eq_of_mem_replicate h) (by decide)
  · exact absurd (List.eq_of_mem_replicate h) (by decide)

/-- An update whose first part ends after the first 64 zeros of the word. -/
theorem update_zerosAfter_leaks (law : Nip19Words fun _ => false) {disputeId : String} {dots : Nat}
    (hbudget : updateBudget disputeId 1 = 15 + (dots + 1) + 64) :
    ∃ parts, update (fun _ => false) disputeId [⟨0, .party .buyer, zerosAfter (dots + 1), 0⟩] =
      some parts ∧ ¬∀ part ∈ parts, Redacted (fun _ => false) part := by
  have hpositive : 0 < updateBudget disputeId 1 := by omega
  set opening := composed ("[" ++ clock 0 ++ "] " ++ who (.party .buyer) ++ ": ") with hset
  have hopening : opening.length = 15 := by
    rw [hset]
    decide +kernel
  -- The line is what the first part takes of it, and one more zero.
  let body : Marked := opening ++ List.replicate dots ⟨'.', .supplied⟩ ++ ⟨'.', .supplied⟩ ::
    List.replicate 64 ⟨'0', .supplied⟩
  have hline : transcriptLine (fun _ => false) ⟨0, .party .buyer, zerosAfter (dots + 1), 0⟩ =
      body ++ [⟨'0', .supplied⟩] := by
    rw [transcriptLine, verbatim_zerosAfter law, List.map_append, List.map_replicate,
      List.map_replicate, List.replicate_succ', List.replicate_succ']
    simp [attachmentsNote, composed, hset, body]
  have hlength : body.length = updateBudget disputeId 1 := by
    rw [hbudget]
    simp [hopening, body]
    omega
  refine ⟨_, by rw [update]; exact dif_pos hpositive, fun hall => ?_⟩
  have hmem : body ∈ chunk hpositive
      ([⟨0, .party .buyer, zerosAfter (dots + 1), 0⟩].map (transcriptLine fun _ => false)) := by
    rw [chunk_eq, List.map_singleton, hline, Packing.pack, List.foldl_cons, List.foldl_nil,
      Packing.bodies_line]
    rw [show Packing.place _ (Packing.Filling.empty : Packing.Filling Mark).current.length _ =
      .start from Packing.place_eq_start_iff.mpr rfl]
    apply List.mem_append_right
    rw [Packing.blocks_of_lt hpositive (by rw [List.length_append, hlength]; simp), ← hlength,
      List.take_left]
    exact List.mem_cons_self
  refine hall _ (List.mem_map_of_mem hmem) (List.replicate 64 ⟨'0', .supplied⟩) ?_
    ⟨⟨⟨'0', .supplied⟩, by simp, rfl⟩, ?_⟩
  · refine ⟨by simp, fun mark hmark => ?_, (updateHeader disputeId 1 ++ newline ::
      (opening ++ List.replicate dots ⟨'.', .supplied⟩)) ++ [⟨'.', .supplied⟩], [], ?_, ?_, ?_⟩
    · rw [List.eq_of_mem_replicate hmark]
      decide
    · simp [body]
    · intro mark hmark
      rw [List.getLast?_concat, Option.mem_some_iff] at hmark
      rw [← hmark]
      decide
    · simp
  · left
    rw [List.map_replicate]
    refine ⟨List.length_replicate, fun c hc => ?_⟩
    rw [List.eq_of_mem_replicate hc]
    decide

/-- **A cut leaks.** The update with this message is split inside its word, after the first 64
digits. -/
theorem redaction_cut_leaks : Nip19Words (fun _ => false) ∧
    ∃ parts, update (fun _ => false) "d1" [⟨0, .party .buyer,
      truncate (zerosAfter 29877) 40000, 0⟩] = some parts ∧
        ¬∀ part ∈ parts, Redacted (fun _ => false) part := by
  have law : Nip19Words fun _ => false := ⟨nofun, nofun⟩
  have htruncate : ∀ dots, dots + 65 ≤ 40000 →
      truncate (zerosAfter dots) 40000 = zerosAfter dots := by
    intro dots hle
    rw [truncate, zerosAfter, String.toList_ofList, List.take_of_length_le]
    rw [List.length_append, List.length_replicate, List.length_replicate]
    exact hle
  rw [htruncate 29877 (by decide)]
  exact ⟨law, update_zerosAfter_leaks law (by decide +kernel)⟩

end SolverText

end Serbero
