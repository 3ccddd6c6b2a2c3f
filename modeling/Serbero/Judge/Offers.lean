import Serbero.Judge.Brief

/-! # What the brief offers, and what it quotes

A provider's capability check against the brief questions over a state, and where the quotes of a
brief come from in the session's messages. -/

namespace Serbero

/-! ## The capability check -/

/-- What a provider supports. -/
structure Capabilities where
  questionKinds : List QuestionKind
  maxChoiceOptions : Nat
  maxScoreLevels : Nat
  deriving DecidableEq, Repr

/-- Why a question cannot be sent to a provider. -/
inductive CapabilityProblem
  | unsupported (id : String) (kind : QuestionKind)
  | optionCount (id : String) (count max : Nat)
  | duplicateOptions (id : String)
  | levelCount (id : String) (count max : Nat)
  deriving DecidableEq, Repr

/-- Whether two neighbours of a list are equal. -/
def hasEqualNeighbours : List String → Bool
  | first :: second :: rest => first == second || hasEqualNeighbours (second :: rest)
  | _ => false

namespace Capabilities

/-- Every reason one question cannot be sent to this provider. -/
def problems (capabilities : Capabilities) (id : String) (question : Question) :
    List CapabilityProblem :=
  if !capabilities.questionKinds.contains question.kind then [.unsupported id question.kind]
  else
    match question with
    | .noul => []
    | .choice options =>
      let count := options.length
      (if 2 ≤ count ∧ count ≤ capabilities.maxChoiceOptions then []
        else [.optionCount id count capabilities.maxChoiceOptions]) ++
      if hasEqualNeighbours (options.insertionSort (· ≤ ·)) then [.duplicateOptions id] else []
    | .score levels =>
      let count := levels.length
      if 2 ≤ count ∧ count ≤ capabilities.maxScoreLevels then []
      else [.levelCount id count capabilities.maxScoreLevels]

/-- Every reason a question set cannot be sent to this provider; empty when it can. -/
def check (capabilities : Capabilities) (set : QuestionSet) : List CapabilityProblem :=
  set.questions.toList.flatMap fun entry => capabilities.problems entry.1 entry.2

end Capabilities

/-- Distinct names have no equal neighbours, in any order. -/
theorem hasEqualNeighbours_eq_false {names : List String} (h : names.Nodup) :
    hasEqualNeighbours names = false := by
  induction names with
  | nil => rfl
  | cons first rest ih =>
    cases rest with
    | nil => rfl
    | cons second rest =>
      obtain ⟨hfirst, hrest⟩ := List.nodup_cons.mp h
      rw [hasEqualNeighbours, ih hrest, Bool.or_false, beq_eq_false_iff_ne]
      rintro rfl
      exact hfirst List.mem_cons_self

namespace Capabilities

variable {capabilities : Capabilities}

/-- A choice of distinct options, two or more and no more than are supported, can be sent. -/
theorem problems_choice {id : String} {options : List String}
    (hkind : QuestionKind.choice ∈ capabilities.questionKinds) (htwo : 2 ≤ options.length)
    (hmax : options.length ≤ capabilities.maxChoiceOptions) (hnodup : options.Nodup) :
    capabilities.problems id (.choice options) = [] := by
  have hsorted : (options.insertionSort (· ≤ ·)).Nodup :=
    (List.perm_insertionSort _ options).nodup_iff.mpr hnodup
  simp [problems, Question.kind, hkind, htwo, hmax, hasEqualNeighbours_eq_false hsorted]

/-- A score of two levels or more, and no more than are supported, can be sent. -/
theorem problems_score {id : String} {levels : List String}
    (hkind : QuestionKind.score ∈ capabilities.questionKinds) (htwo : 2 ≤ levels.length)
    (hmax : levels.length ≤ capabilities.maxScoreLevels) :
    capabilities.problems id (.score levels) = [] := by
  simp [problems, Question.kind, hkind, htwo, hmax]

/-- A set passes the check when each of its questions can be sent. -/
theorem check_eq_nil {set : QuestionSet}
    (h : ∀ id question, set.questions[id]? = some question →
      capabilities.problems id question = []) : capabilities.check set = [] := by
  rw [check, List.flatMap_eq_nil_iff]
  intro entry hentry
  exact h _ _ (Std.TreeMap.mem_toList_iff_getElem?_eq_some.mp hentry)

end Capabilities

/-! ## The messages a quote question offers -/

/-- Whether a message was written by the party or parties a quote question is about. -/
def Quoted.wrote (quoted : Quoted) (message : Message) : Bool :=
  message.direction == .inbound && quoted.includes (.party message.party)

/-- The newest `n` entries that satisfy a test are those after which fewer than `n` satisfy it. -/
theorem mem_newest_iff {α : Type*} {p : α → Bool} {entries : List α} {n : Nat} {entry : α} :
    entry ∈ (entries.filter p).drop ((entries.filter p).length - n) ↔
      ∃ before after, entries = before ++ entry :: after ∧ p entry = true ∧ after.countP p < n := by
  constructor
  · intro h
    obtain ⟨newer, newest, hdrop⟩ := List.append_of_mem h
    have hsplit := List.take_append_drop ((entries.filter p).length - n) (entries.filter p)
    rw [hdrop, ← List.append_assoc, eq_comm, List.filter_eq_append_iff] at hsplit
    obtain ⟨before, rest, rfl, -, hrest⟩ := hsplit
    obtain ⟨skipped, after, rfl, -, hp, hafter⟩ := List.filter_eq_cons_iff.mp hrest
    refine ⟨before ++ skipped, after, by rw [List.append_assoc], hp, ?_⟩
    have hlength := congrArg List.length hdrop
    rw [List.length_drop, List.length_append, List.length_cons] at hlength
    rw [List.countP_eq_length_filter, hafter]
    omega
  · rintro ⟨before, after, rfl, hp, hafter⟩
    rw [List.countP_eq_length_filter] at hafter
    rw [List.filter_append, List.filter_cons_of_pos hp, List.length_append, List.length_cons,
      List.drop_append_of_le_length (by omega)]
    exact List.mem_append_right _ List.mem_cons_self

section state

variable {nip19 : List Char → Bool} {session : Session} {openedBy : Initiator}
  {messages : List Message} {maxChars : Nat} {quoted : Quoted}

/-- Whose message a transcript entry is. -/
theorem includes_transcriptEntry (message : Message) (index : Nat) :
    quoted.includes (transcriptEntry nip19 maxChars message index).speaker =
      quoted.wrote message := by
  rw [transcriptEntry, Quoted.wrote]
  cases message.direction
  · rfl
  · cases quoted <;> rfl

/-- The ids of the messages the quoted parties wrote, in transcript order. -/
theorem filter_transcript_buildState :
    ((buildState nip19 session openedBy messages maxChars).transcript.filter
        fun entry => quoted.includes entry.speaker).map (·.id) =
      (messages.zipIdx.filter fun entry => quoted.wrote entry.1).map fun entry => shortId entry.2 := by
  rw [transcript_buildState, List.filter_map, List.map_map]
  congr 1
  apply List.filter_congr
  intro entry _
  exact includes_transcriptEntry entry.1 entry.2

/-- **The messages offered.** They are those the quoted parties wrote with fewer than
`maxQuoteOptions` such messages after them. -/
theorem mem_messageIds_iff {id : String} :
    id ∈ messageIds (buildState nip19 session openedBy messages maxChars) quoted ↔
      ∃ before message after, messages = before ++ message :: after ∧ id = shortId before.length ∧
        quoted.wrote message = true ∧ after.countP quoted.wrote < maxQuoteOptions := by
  rw [messageIds, filter_transcript_buildState, List.length_map, ← List.map_drop, List.mem_map]
  constructor
  · rintro ⟨⟨message, index⟩, hmem, rfl⟩
    obtain ⟨before, after, hsplit, hwrote, hafter⟩ := mem_newest_iff.mp hmem
    obtain ⟨before', rest, rfl, rfl, hrest⟩ := List.zipIdx_eq_append_iff.mp hsplit
    obtain ⟨first, after', rfl, hfirst, rfl⟩ := List.zipIdx_eq_cons_iff.mp hrest.symm
    obtain ⟨rfl, rfl⟩ := Prod.mk.inj hfirst
    refine ⟨before', message, after', rfl, by rw [Nat.zero_add], hwrote, ?_⟩
    rw [← List.zipIdx_map_fst (0 + before'.length + 1) after', List.countP_map]
    exact hafter
  · rintro ⟨before, message, after, rfl, rfl, hwrote, hafter⟩
    refine ⟨(message, before.length), mem_newest_iff.mpr ⟨before.zipIdx,
      after.zipIdx (before.length + 1), ?_, hwrote, ?_⟩, rfl⟩
    · rw [List.zipIdx_append, List.zipIdx_cons, Nat.zero_add]
    · rw [← List.zipIdx_map_fst (before.length + 1) after, List.countP_map] at hafter
      exact hafter

/-- A short id is not the option that quotes nothing. -/
theorem shortId_ne_noQuote (index : Nat) : shortId index ≠ noQuote := by
  intro h
  have := congrArg String.toList h
  rw [shortId, String.toList_append] at this
  simp [noQuote] at this

/-- The ids offered are distinct, and none of them is the option that quotes nothing. -/
theorem nodup_messageIds :
    (messageIds (buildState nip19 session openedBy messages maxChars) quoted ++ [noQuote]).Nodup := by
  refine List.nodup_append.mpr ⟨?_, List.nodup_singleton _, ?_⟩
  · have hall : (messages.zipIdx.map Prod.snd).Nodup := by
      rw [List.zipIdx_map_snd]
      exact List.nodup_range'
    have hwrote : ((messages.zipIdx.filter fun entry => quoted.wrote entry.1).map
        Prod.snd).Nodup :=
      hall.sublist (List.filter_sublist.map Prod.snd)
    have hids := hwrote.map shortId_injective
    rw [List.map_map] at hids
    rw [messageIds, filter_transcript_buildState]
    exact hids.sublist (List.drop_sublist _ _)
  · rintro id hid other hother rfl
    obtain ⟨before, -, -, -, rfl, -⟩ := mem_messageIds_iff.mp hid
    exact shortId_ne_noQuote _ (List.mem_singleton.mp hother)

/-- Nothing is offered exactly when the quoted parties wrote nothing. -/
theorem messageIds_eq_nil_iff :
    messageIds (buildState nip19 session openedBy messages maxChars) quoted = [] ↔
      ∀ message ∈ messages, quoted.wrote message = false := by
  have hnewest : ∀ ids : List String, ids.drop (ids.length - maxQuoteOptions) = [] ↔ ids = [] := by
    intro ids
    rw [List.drop_eq_nil_iff, ← List.length_eq_zero_iff]
    have : 0 < maxQuoteOptions := by decide
    omega
  rw [messageIds, hnewest, filter_transcript_buildState, List.map_eq_nil_iff, List.filter_eq_nil_iff]
  constructor
  · intro h message hmessage
    rw [← List.zipIdx_map_fst 0 messages] at hmessage
    obtain ⟨entry, hentry, rfl⟩ := List.mem_map.mp hmessage
    exact Bool.eq_false_iff.mpr (h entry hentry)
  · intro h entry hentry
    rw [h entry.1 (List.fst_mem_of_mem_zipIdx hentry)]
    exact Bool.false_ne_true

/-- No quote question offers more than the newest ones. -/
theorem length_messageIds_le (state : JudgeState) :
    (messageIds state quoted).length ≤ maxQuoteOptions := by
  rw [messageIds, List.length_drop]
  omega

/-- Adding a quote question leaves the others as they were. -/
theorem getElem?_addQuote_of_ne {state : JudgeState} {spec : Quote} {id : String}
    (hne : id ≠ spec.id) {map : Std.TreeMap String Question} :
    (addQuote state map spec)[id]? = map[id]? := by
  rw [addQuote]
  split
  · rfl
  · rw [Std.TreeMap.getElem?_insert, if_neg]
    exact fun heq => hne (Std.LawfulEqCmp.eq_of_compare heq).symm

/-- A question is left as it was by the quote questions of other ids. -/
theorem getElem?_foldl_addQuote_of_notMem {state : JudgeState} {specs : List Quote} {id : String}
    (hid : id ∉ specs.map Quote.id) {map : Std.TreeMap String Question} :
    (specs.foldl (addQuote state) map)[id]? = map[id]? := by
  induction specs generalizing map with
  | nil => rfl
  | cons first rest ih =>
    rw [List.map_cons, List.mem_cons, not_or] at hid
    rw [List.foldl_cons, ih hid.2, getElem?_addQuote_of_ne hid.1]

/-- A quote question is among those added exactly when it offers something. -/
theorem getElem?_foldl_addQuote {state : JudgeState} {specs : List Quote} {spec : Quote}
    (hnodup : (specs.map Quote.id).Nodup) (hspec : spec ∈ specs)
    {map : Std.TreeMap String Question} (hmap : map[spec.id]? = none) :
    (specs.foldl (addQuote state) map)[spec.id]? =
      if messageIds state spec.quoted = [] then none
      else some (quoteQuestion (messageIds state spec.quoted)) := by
  induction specs generalizing map with
  | nil => exact absurd hspec List.not_mem_nil
  | cons first rest ih =>
    rw [List.map_cons, List.nodup_cons] at hnodup
    rw [List.foldl_cons]
    rcases List.mem_cons.mp hspec with rfl | hrest
    · rw [getElem?_foldl_addQuote_of_notMem hnodup.1, addQuote]
      by_cases hnil : messageIds state spec.quoted = []
      · simp only [hnil, List.isEmpty_nil, if_true, hmap]
      · rw [if_neg (by rwa [List.isEmpty_iff]), if_neg hnil, Std.TreeMap.getElem?_insert_self]
    · refine ih hnodup.2 hrest ?_
      have hne : spec.id ≠ first.id := fun heq => hnodup.1 (heq ▸ List.mem_map_of_mem hrest)
      rw [getElem?_addQuote_of_ne hne, hmap]

/-- **Which quote questions are asked.** Those that offer something. -/
theorem getElem?_briefQuestions {version : String} {state : JudgeState} {spec : Quote}
    (hspec : spec ∈ quotes) :
    (briefQuestions version state).questions[spec.id]? =
      if messageIds state spec.quoted = [] then none
      else some (quoteQuestion (messageIds state spec.quoted)) := by
  have hid : evidenceBalanceId ∉ quotes.map Quote.id := by decide
  have hother : compare evidenceBalanceId spec.id ≠ .eq := fun heq =>
    hid (Std.LawfulEqCmp.eq_of_compare heq ▸ List.mem_map_of_mem hspec)
  rw [briefQuestions, Std.TreeMap.getElem?_insert, if_neg hother]
  exact getElem?_foldl_addQuote (by decide) hspec (by simp)

end state

/-! ## Authentic quotes -/

/-- The quote questions of a brief, each with what it quoted. -/
def Brief.quoted (brief : Brief) : List (Quote × Option String) :=
  quotes.zip [brief.quoteBuyerPayment, brief.quoteBuyerDetails, brief.quoteSellerReceipt,
    brief.quoteConcern]

/-- A quote that is authentic: the short id of one of the newest messages that those the question is
about wrote, and the winner of its question's answer with the fact threshold's share. -/
structure Authentic (messages : List Message) (state : JudgeState) (answers : Answers)
    (thresholds : Thresholds) (spec : Quote) (shown : String) : Prop where
  /-- The state has an entry of that id, and its speaker is one the question is about. -/
  entry : ∃ entry ∈ state.transcript, entry.id = shown ∧ spec.quoted.includes entry.speaker = true
  /-- It is a message that party wrote, with fewer than `maxQuoteOptions` such after it. -/
  message : ∃ before message after, messages = before ++ message :: after ∧
    shown = shortId before.length ∧ spec.quoted.wrote message = true ∧
    after.countP spec.quoted.wrote < maxQuoteOptions
  notNone : shown ≠ noQuote
  share : ∃ answer, answers[spec.id]? = some answer ∧ answer.winner = some shown ∧
    thresholds.fact ≤ answer.share shown

/-- The brief questions over a state can be sent to a provider, and leave out only what cannot be
asked. -/
structure Askable (messages : List Message) (asked : QuestionSet) : Prop where
  /-- A provider of choices and scores that supports 255 options and the evidence levels finds no
  problem. -/
  sendable (capabilities : Capabilities) :
    QuestionKind.choice ∈ capabilities.questionKinds →
    QuestionKind.score ∈ capabilities.questionKinds →
    255 ≤ capabilities.maxChoiceOptions → evidenceLevels.length ≤ capabilities.maxScoreLevels →
      capabilities.check asked = []
  /-- Every choice has at least two options, and no duplicate. -/
  options (id : String) (options : List String) :
    asked.questions[id]? = some (.choice options) → 2 ≤ options.length ∧ options.Nodup
  /-- A quote question is left out exactly when its party wrote nothing. -/
  leftOut : ∀ spec ∈ quotes, asked.questions[spec.id]? = none ↔
    ∀ message ∈ messages, spec.quoted.wrote message = false

section state

variable {nip19 : List Char → Bool} {session : Session} {openedBy : Initiator}
  {messages : List Message} {maxChars : Nat} {answers : Answers} {thresholds : Thresholds}

/-- A quote read from any answers over a built state is authentic. -/
theorem authentic_of_quote {spec : Quote} (hspec : spec ∈ quotes) {shown : String}
    (h : Brief.quote (buildState nip19 session openedBy messages maxChars) answers thresholds
      spec.id = some shown) :
    Authentic messages (buildState nip19 session openedBy messages maxChars) answers thresholds spec
      shown := by
  obtain ⟨answer, hanswer, hwinner, hnone, hshare, hmem⟩ := (Brief.quote_eq_some_iff hspec).mp h
  obtain ⟨entry, hentry, hid⟩ := List.mem_map.mp (List.mem_of_mem_drop hmem)
  obtain ⟨hentry, hincludes⟩ := List.mem_filter.mp hentry
  exact
    { entry := ⟨entry, hentry, hid, hincludes⟩
      message := mem_messageIds_iff.mp hmem
      notNone := hnone
      share := ⟨answer, hanswer, hwinner, hshare⟩ }

/-- A quote question over a built state has its options distinct, at least two and few enough. -/
theorem quoteQuestion_options {quoted : Quoted}
    (h : messageIds (buildState nip19 session openedBy messages maxChars) quoted ≠ []) :
    2 ≤ (messageIds (buildState nip19 session openedBy messages maxChars) quoted ++
        [noQuote]).length ∧
      (messageIds (buildState nip19 session openedBy messages maxChars) quoted ++
        [noQuote]).length ≤ 255 ∧
      (messageIds (buildState nip19 session openedBy messages maxChars) quoted ++
        [noQuote]).Nodup := by
  have hpos := List.length_pos_iff.mpr h
  have hle : (messageIds (buildState nip19 session openedBy messages maxChars) quoted).length ≤
    maxQuoteOptions := length_messageIds_le _
  have hmax : maxQuoteOptions = 100 := rfl
  refine ⟨?_, ?_, nodup_messageIds⟩
  · rw [List.length_append, List.length_singleton]
    omega
  · rw [List.length_append, List.length_singleton]
    omega

/-- Every question over a built state is a quote question that offers something, or the evidence
question. -/
theorem briefQuestions_cases {version : String} {id : String} {question : Question}
    (h : (briefQuestions version
      (buildState nip19 session openedBy messages maxChars)).questions[id]? = some question) :
    (∃ quoted, messageIds (buildState nip19 session openedBy messages maxChars) quoted ≠ [] ∧
      question = quoteQuestion
        (messageIds (buildState nip19 session openedBy messages maxChars) quoted)) ∨
      question = .score evidenceLevels := by
  rcases briefQuestions_getElem? h with ⟨spec, hspec, rfl, rfl⟩ | rfl
  · refine Or.inl ⟨spec.quoted, fun hnil => ?_, rfl⟩
    rw [getElem?_briefQuestions hspec, if_pos hnil] at h
    cases h
  · rw [briefQuestions, Std.TreeMap.getElem?_insert_self, Option.some.injEq] at h
    exact Or.inr h.symm

/-- The brief questions over a built state can be sent. -/
theorem askable_briefQuestions (version : String) :
    Askable messages
      (briefQuestions version (buildState nip19 session openedBy messages maxChars)) where
  sendable capabilities hchoice hscore hoptions hlevels := by
    refine Capabilities.check_eq_nil fun id question hquestion => ?_
    rcases briefQuestions_cases hquestion with ⟨quoted, hsome, rfl⟩ | rfl
    · obtain ⟨htwo, hmax, hnodup⟩ := quoteQuestion_options hsome
      exact Capabilities.problems_choice hchoice htwo (hmax.trans hoptions) hnodup
    · exact Capabilities.problems_score hscore (by decide) hlevels
  options id options hquestion := by
    rcases briefQuestions_cases hquestion with ⟨quoted, hsome, heq⟩ | heq
    · rw [quoteQuestion, Question.choice.injEq] at heq
      obtain ⟨htwo, -, hnodup⟩ := quoteQuestion_options hsome
      rw [heq]
      exact ⟨htwo, hnodup⟩
    · cases heq
  leftOut spec hspec := by
    rw [getElem?_briefQuestions hspec, ← messageIds_eq_nil_iff]
    split
    · next hnil => exact iff_of_true rfl hnil
    · next hsome => exact iff_of_false (Option.some_ne_none _) hsome

/-- **Brief quotes are authentic.** Whatever the answers, checked or not: each quote is one of the
newest messages of the party its question is about; and the questions over any built state can be
sent, a quote question left out exactly when its party wrote nothing. -/
theorem brief_quotes_authentic (nip19 : List Char → Bool) (session : Session)
    (openedBy : Initiator) (messages : List Message) (maxChars : Nat) (answers : Answers)
    (thresholds : Thresholds) (version : String) :
    (∀ entry ∈ (Brief.fromAnswers (buildState nip19 session openedBy messages maxChars) answers
        thresholds).quoted, ∀ shown, entry.2 = some shown →
          Authentic messages (buildState nip19 session openedBy messages maxChars) answers
            thresholds entry.1 shown) ∧
      Askable messages
        (briefQuestions version (buildState nip19 session openedBy messages maxChars)) := by
  refine ⟨fun entry hentry shown hshown => ?_, askable_briefQuestions version⟩
  have hread : ∀ entry ∈ (Brief.fromAnswers (buildState nip19 session openedBy messages maxChars)
      answers thresholds).quoted, entry.1 ∈ quotes ∧ entry.2 =
        Brief.quote (buildState nip19 session openedBy messages maxChars) answers thresholds
          entry.1.id := by
    simp [Brief.quoted, Brief.fromAnswers, quotes]
  obtain ⟨hspec, hquote⟩ := hread entry hentry
  exact authentic_of_quote hspec (hquote ▸ hshown)

end state

end Serbero
