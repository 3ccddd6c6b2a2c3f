import Serbero.Judge.Brief
import Serbero.Lib.LastOf
import Serbero.Solver.Text
import Serbero.Store.Messages

/-! # Quotes across retries

A brief is judged once and delivered until some solver has all of it. A retry rebuilds the state
from the messages stored by then, and reads its quotes from the stored answers. The answers name
messages by short ids, which are positions in the conversation; a message that arrived in between
and is dated earlier moves them. -/

namespace Serbero

open LastOf

/-! ## The message behind a short id -/

/-- The message that carries a short id in the state built over these messages. -/
def messageAt (loaded : List Message) (id : String) : Option Message :=
  ((conversationOrder loaded).zipIdx.find? fun entry => shortId entry.2 == id).map Prod.fst

/-- A short id is carried by the message at its position. -/
theorem messageAt_eq_some_iff {loaded : List Message} {id : String} {message : Message} :
    messageAt loaded id = some message ↔
      ∃ index, id = shortId index ∧ (conversationOrder loaded)[index]? = some message := by
  rw [messageAt, Option.map_eq_some_iff]
  constructor
  · rintro ⟨⟨found, index⟩, hfind, rfl⟩
    have hid : shortId index = id := by simpa using List.find?_some hfind
    exact ⟨index, hid.symm, List.mem_zipIdx_iff_getElem?.mp (List.mem_of_find?_eq_some hfind)⟩
  · rintro ⟨index, rfl, hindex⟩
    have hmem : (message, index) ∈ (conversationOrder loaded).zipIdx :=
      List.mem_zipIdx_iff_getElem?.mpr hindex
    have hsome : ((conversationOrder loaded).zipIdx.find? fun entry =>
        shortId entry.2 == shortId index).isSome := by
      rw [List.find?_isSome]
      exact ⟨(message, index), hmem, by simp⟩
    obtain ⟨⟨found, other⟩, hfind⟩ := Option.isSome_iff_exists.mp hsome
    have hid : other = index := shortId_injective (by simpa using List.find?_some hfind)
    subst hid
    have hother := List.mem_zipIdx_iff_getElem?.mp (List.mem_of_find?_eq_some hfind)
    rw [hindex, Option.some.injEq] at hother
    exact ⟨(found, other), hfind, hother.symm⟩

/-- **What a quote shows** is the redacted, truncated text of the message behind the short id. -/
theorem message_buildState {nip19 : List Char → Bool} {session : Session} {openedBy : Initiator}
    {loaded : List Message} {maxChars : Nat} {id : String} {message : Message}
    (h : messageAt loaded id = some message) :
    SolverText.message (buildState nip19 session openedBy (conversationOrder loaded) maxChars) id =
      some (truncate (redact nip19 message.content) maxChars, message.attachments) := by
  obtain ⟨⟨found, index⟩, hfind, rfl⟩ := Option.map_eq_some_iff.mp h
  have hattachments : (if 0 < found.attachments then some found.attachments else none).getD 0 =
      found.attachments := by
    split
    · rfl
    · simp only [Option.getD_none]
      omega
  rw [SolverText.message, transcript_buildState, List.find?_map]
  have hsame : ((fun entry : TranscriptEntry => entry.id == id) ∘
      fun entry : Message × Nat => transcriptEntry nip19 maxChars entry.1 entry.2) =
      fun entry => shortId entry.2 == id := rfl
  rw [hsame, hfind]
  simp only [Option.map_some, transcriptEntry, hattachments]

/-! ## Attempts to deliver a brief -/

/-- What the briefs of one session are made with. -/
structure Briefing where
  nip19 : List Char → Bool
  session : Session
  openedBy : Initiator
  maxMessageChars : Nat
  thresholds : Thresholds
  /-- The identifier of the brief question set. -/
  briefVersion : String
  /-- The identifier of the turn question set. -/
  turnVersion : String
  /-- The two identifiers hash different questions. -/
  versions_ne : turnVersion ≠ briefVersion

/-- The state over these messages. -/
def Briefing.state (briefing : Briefing) (loaded : List Message) : JudgeState :=
  buildState briefing.nip19 briefing.session briefing.openedBy (conversationOrder loaded)
    briefing.maxMessageChars

/-- When the session's newest pending brief was recorded. -/
def pendingSince (session : Session) (events : List Event) : Option Int :=
  (events.reverse.find? fun event =>
    event.sessionId == some session.sessionId &&
      match event.kind with
      | .briefPending _ => true
      | _ => false).map Event.createdAt

/-- A brief evaluation for this action, made since the pending brief was recorded. -/
def Evaluation.isBriefFor (evaluation : Evaluation) (session : Session) (version : String)
    (action : Action) (since : Int) : Bool :=
  evaluation.sessionId == session.sessionId && evaluation.questionSetVersion == version &&
    evaluation.action == action && decide (since ≤ evaluation.createdAt)

/-- The judge's answers to the brief questions over a state: an adapter refuses answers that do not
fit the questions. -/
def evaluateBrief (version : String) (state : JudgeState) (raw : Option Answers) :
    Option Answers :=
  raw.bind fun answers =>
    match checkAnswers (briefQuestions version state) answers with
    | .ok () => some answers
    | .error _ => none

/-- A stored evaluation, with the messages the judge was asked about. -/
structure JudgedBrief where
  evaluation : Evaluation
  judged : List Message

/-- A brief as an attempt made it: the messages its answers were judged on, the messages its state
was built from, and the answers. -/
structure Shown where
  judged : List Message
  loaded : List Message
  answers : Answers
  brief : Brief

/-- The stored rows of a session, in the order they were stored, and the briefs made so far. -/
structure Desk where
  messages : List Message
  events : List Event
  evaluations : List JudgedBrief
  shown : List Shown

/-- One step at the desk. -/
inductive DeskInput
  /-- A message of a party, or Serbero's own, is stored under a new id. -/
  | arrive (id : Int) (message : NewMessage)
  /-- A hand-off or guidance records its brief as pending. -/
  | pend (about : Subject) (now : Int)
  /-- A turn records its evaluation. -/
  | turn (answers : Answers) (action : Action) (now : Int)
  /-- A brief is made from the first `seen` messages: from the stored answers if there are any,
  else from the judge's raw answers, which may be missing and may fail to be recorded. -/
  | attempt (about : Subject) (seen : Nat) (raw : Option Answers) (recorded : Bool) (now : Int)

namespace Desk

/-- The desk of a session that was just opened. -/
def start : Desk := ⟨[], [], [], []⟩

/-- The answers already judged for the session's current pending brief. -/
def storedBrief (desk : Desk) (briefing : Briefing) (action : Action) : Option JudgedBrief :=
  (pendingSince briefing.session desk.events).bind fun since =>
    desk.evaluations.reverse.find? fun stored =>
      stored.evaluation.isBriefFor briefing.session briefing.briefVersion action since

/-- The newest message id of a list; zero when there is none. -/
def lastMessageId (messages : List Message) : Int := (messages.map Message.id).max?.getD 0

/-- One attempt to brief the solvers. A failed request costs the quotes, not the brief. -/
def attempt (desk : Desk) (briefing : Briefing) (about : Subject) (loaded : List Message)
    (raw : Option Answers) (recorded : Bool) (now : Int) : Desk :=
  let state := briefing.state loaded
  match desk.storedBrief briefing about.action with
  | some stored =>
    let answers := stored.evaluation.answers
    { desk with shown := desk.shown ++
        [⟨stored.judged, loaded, answers,
          Brief.fromAnswers state answers briefing.thresholds⟩] }
  | none =>
    match evaluateBrief briefing.briefVersion state raw with
    | none => desk
    | some answers =>
      let evaluation : Evaluation :=
        { id := desk.evaluations.length + 1
          sessionId := briefing.session.sessionId
          questionSetVersion := briefing.briefVersion
          lastMessageId := lastMessageId loaded
          answers := answers
          action := about.action
          createdAt := now }
      { desk with
        evaluations := if recorded then desk.evaluations ++ [⟨evaluation, loaded⟩]
          else desk.evaluations
        shown := desk.shown ++
          [⟨loaded, loaded, answers, Brief.fromAnswers state answers briefing.thresholds⟩] }

/-- One step. -/
def step (briefing : Briefing) (desk : Desk) : DeskInput → Desk
  | .arrive id message =>
    if desk.messages.all fun earlier => decide (earlier.id < id) then
      { desk with messages := desk.messages ++ [message.row id] }
    else desk
  | .pend about now =>
    { desk with events := desk.events ++
        [⟨desk.events.length + 1, briefing.session.disputeId, some briefing.session.sessionId,
          .briefPending about, now⟩] }
  | .turn answers action now =>
    let evaluation : Evaluation :=
      { id := desk.evaluations.length + 1
        sessionId := briefing.session.sessionId
        questionSetVersion := briefing.turnVersion
        lastMessageId := lastMessageId desk.messages
        answers := answers
        action := action
        createdAt := now }
    { desk with evaluations := desk.evaluations ++ [⟨evaluation, desk.messages⟩] }
  | .attempt about seen raw recorded now =>
    desk.attempt briefing about (desk.messages.take seen) raw recorded now

/-- A run. -/
def run (briefing : Briefing) (inputs : List DeskInput) : Desk :=
  inputs.foldl (step briefing) start

end Desk

/-! ## What a shown brief is made of -/

/-- Each quote is the very message that carried the chosen short id in the judged state. -/
def Shown.Authentic (shown : Shown) : Prop :=
  ∀ id ∈ shown.brief.quoteIds, ∃ message,
    messageAt shown.judged id = some message ∧ messageAt shown.loaded id = some message

/-- No quote was moved: whenever a question's answer picks a message, with the fact threshold's
share, under an id the loaded state still offers, the picked message is loaded too, and no message
that only one of the two transcripts has is dated before it. -/
def Shown.Undisturbed (briefing : Briefing) (shown : Shown) : Prop :=
  ∀ spec ∈ quotes, ∀ answer, shown.answers[spec.id]? = some answer →
    ∀ winner, answer.winner = some winner → winner ≠ noQuote →
      briefing.thresholds.fact ≤ answer.share winner →
      winner ∈ messageIds (briefing.state shown.loaded) spec.quoted →
      ∀ message, messageAt shown.judged winner = some message →
        message ∈ shown.loaded ∧
          ∀ other, (other ∈ shown.judged ↔ other ∉ shown.loaded) → ¬ other.saidAt < message.saidAt

/-- What every shown brief is: both transcripts are what had arrived at some time, the answers fit
the questions over the judged one, and the brief is read over the loaded one. -/
structure Shown.WellMade (briefing : Briefing) (messages : List Message) (shown : Shown) :
    Prop where
  judged_arrived : shown.judged <+: messages
  loaded_arrived : shown.loaded <+: messages
  checked : checkAnswers (briefQuestions briefing.briefVersion (briefing.state shown.judged))
    shown.answers = .ok ()
  brief_eq : shown.brief =
    Brief.fromAnswers (briefing.state shown.loaded) shown.answers briefing.thresholds

/-! ## One brief -/

section position

variable {messages loaded : List Message}

/-- Messages that had arrived at some time have distinct ids when all messages do. -/
theorem nodup_id_of_arrived (h : loaded <+: messages)
    (distinct : (messages.map Message.id).Nodup) : (loaded.map Message.id).Nodup :=
  distinct.sublist (h.sublist.map _)

/-- The position of a message in the conversation counts the messages dated before it. -/
theorem countP_saidAt_of_position (distinct : (loaded.map Message.id).Nodup) {index : Nat}
    {message : Message} (h : (conversationOrder loaded)[index]? = some message) :
    loaded.countP (fun other => decide (other.saidAt < message.saidAt)) = index := by
  rw [← (perm_conversationOrder loaded).countP_eq]
  exact countP_of_position (r := fun a b => a.saidAt < b.saidAt)
    (fun _ _ _ _ => lt_asymm) (pairwise_conversationOrder distinct) h

/-- Two transcripts of one session show the same message at a position exactly when the message is
in both and as many messages are dated before it. -/
theorem same_position_iff {judged : List Message} (distinct : (loaded.map Message.id).Nodup)
    (distinctJudged : (judged.map Message.id).Nodup) {index : Nat} {message shown : Message}
    (hjudged : (conversationOrder judged)[index]? = some message)
    (hloaded : (conversationOrder loaded)[index]? = some shown) :
    message = shown ↔ message ∈ loaded ∧
      judged.countP (fun other => decide (other.saidAt < message.saidAt)) =
        loaded.countP (fun other => decide (other.saidAt < message.saidAt)) := by
  have hindex := countP_saidAt_of_position distinctJudged hjudged
  constructor
  · rintro rfl
    refine ⟨?_, by rw [hindex, countP_saidAt_of_position distinct hloaded]⟩
    exact (mem_conversationOrder _ _).mp (List.mem_of_getElem? hloaded)
  · rintro ⟨hmem, hcount⟩
    obtain ⟨other, hother⟩ := List.mem_iff_getElem?.mp ((mem_conversationOrder _ _).mpr hmem)
    have : other = index := by
      rw [← countP_saidAt_of_position distinct hother, ← hcount, hindex]
    subst this
    rw [hother, Option.some.injEq] at hloaded
    exact hloaded

/-- Of two transcripts that had arrived at some times, as many messages are dated before a message
exactly when none that only one of them has is. -/
theorem countP_eq_iff_of_arrived {judged : List Message} (hjudged : judged <+: messages)
    (hloaded : loaded <+: messages) (distinct : (messages.map Message.id).Nodup)
    (p : Message → Bool) :
    judged.countP p = loaded.countP p ↔
      ∀ other, (other ∈ judged ↔ other ∉ loaded) → p other = false := by
  have nodup : ∀ {part : List Message}, part <+: messages → part.Nodup :=
    fun h => (nodup_id_of_arrived h distinct).of_map _
  rcases List.prefix_or_prefix_of_prefix hjudged hloaded with h | h
  · exact countP_eq_iff_of_initial h (nodup hloaded) p
  · rw [eq_comm, countP_eq_iff_of_initial h (nodup hjudged) p]
    refine forall_congr' fun other => imp_congr ?_ Iff.rfl
    tauto

end position

/-- **When a brief quotes the messages the judge chose.** Exactly when no quote was moved. -/
theorem Shown.authentic_iff_undisturbed {briefing : Briefing} {messages : List Message}
    (distinct : (messages.map Message.id).Nodup) {shown : Shown}
    (made : shown.WellMade briefing messages) :
    shown.Authentic ↔ shown.Undisturbed briefing := by
  have distinctJudged := nodup_id_of_arrived made.judged_arrived distinct
  have distinctLoaded := nodup_id_of_arrived made.loaded_arrived distinct
  -- A kept quote names a position of both transcripts; it is authentic when that is one message.
  have kept : ∀ spec ∈ quotes, ∀ answer, shown.answers[spec.id]? = some answer →
      ∀ winner, answer.winner = some winner → winner ≠ noQuote →
      winner ∈ messageIds (briefing.state shown.loaded) spec.quoted →
      ∃ message other, messageAt shown.judged winner = some message ∧
        messageAt shown.loaded winner = some other ∧
        (message = other ↔ message ∈ shown.loaded ∧
          ∀ between, (between ∈ shown.judged ↔ between ∉ shown.loaded) →
            ¬ between.saidAt < message.saidAt) := by
    intro spec hspec answer hanswer winner hwinner hquote hoffered
    have hchosen := winner_mem_messageIds_of_checkAnswers made.checked hspec hanswer hwinner hquote
    obtain ⟨index, message, hmessage, hid, -⟩ := mem_messageIds_buildState hchosen
    obtain ⟨index', other, hother, hid', -⟩ := mem_messageIds_buildState hoffered
    obtain rfl := shortId_injective (hid.symm.trans hid')
    refine ⟨message, other, messageAt_eq_some_iff.mpr ⟨index, hid, hmessage⟩,
      messageAt_eq_some_iff.mpr ⟨index, hid, hother⟩, ?_⟩
    rw [same_position_iff distinctLoaded distinctJudged hmessage hother,
      countP_eq_iff_of_arrived made.judged_arrived made.loaded_arrived distinct]
    simp only [decide_eq_false_iff_not]
  constructor
  · intro authentic spec hspec answer hanswer winner hwinner hquote hshare hoffered message hmessage
    obtain ⟨message', other, hjudged, hloaded, hsame⟩ :=
      kept spec hspec answer hanswer winner hwinner hquote hoffered
    have hshown : winner ∈ shown.brief.quoteIds := by
      rw [made.brief_eq, Brief.mem_quoteIds_fromAnswers]
      exact ⟨spec, hspec, (Brief.quote_eq_some_iff hspec).mpr
        ⟨answer, hanswer, hwinner, hquote, hshare, hoffered⟩⟩
    obtain ⟨quoted, hquotedJudged, hquotedLoaded⟩ := authentic winner hshown
    rw [hmessage, Option.some.injEq] at hjudged hquotedJudged
    rw [hloaded, Option.some.injEq] at hquotedLoaded
    subst hjudged
    exact hsame.mp (hquotedJudged.trans hquotedLoaded.symm)
  · intro undisturbed id hid
    rw [made.brief_eq, Brief.mem_quoteIds_fromAnswers] at hid
    obtain ⟨spec, hspec, hkept⟩ := hid
    obtain ⟨answer, hanswer, hwinner, hquote, hshare, hoffered⟩ :=
      (Brief.quote_eq_some_iff hspec).mp hkept
    obtain ⟨message, other, hjudged, hloaded, hsame⟩ :=
      kept spec hspec answer hanswer id hwinner hquote hoffered
    have := hsame.mpr (undisturbed spec hspec answer hanswer id hwinner hquote hshare hoffered
      message hjudged)
    subst this
    exact ⟨message, hjudged, hloaded⟩

/-- **The lines of the quotes.** An authentic brief shows the text of the very messages that the judge
chose, redacted and cut to size, each with its attachments. -/
theorem Shown.quote_of_authentic {briefing : Briefing} {shown : Shown} (authentic : shown.Authentic)
    {id : String} (hid : id ∈ shown.brief.quoteIds) : ∃ message,
      messageAt shown.judged id = some message ∧
      SolverText.quote briefing.nip19 (briefing.state shown.loaded) id =
        some (SolverText.indentation ++ SolverText.composed "\"" ++
          SolverText.verbatim briefing.nip19
            (truncate (redact briefing.nip19 message.content) briefing.maxMessageChars) ++
          SolverText.composed "\"" ++
          SolverText.composed (SolverText.attachmentsNote message.attachments)) := by
  obtain ⟨message, hjudged, hloaded⟩ := authentic id hid
  refine ⟨message, hjudged, ?_⟩
  have hmessage : SolverText.message (briefing.state shown.loaded) id =
      some (truncate (redact briefing.nip19 message.content) briefing.maxMessageChars,
        message.attachments) := message_buildState hloaded
  rw [SolverText.quote, hmessage]
  rfl

/-! ## Runs -/

/-- Later messages leave a shown brief well made. -/
theorem Shown.WellMade.append {briefing : Briefing} {messages : List Message} {shown : Shown}
    (made : shown.WellMade briefing messages) (later : List Message) :
    shown.WellMade briefing (messages ++ later) :=
  { made with
    judged_arrived := made.judged_arrived.trans (List.prefix_append _ _)
    loaded_arrived := made.loaded_arrived.trans (List.prefix_append _ _) }

/-- The judge's answers fit the questions. -/
theorem checked_of_evaluateBrief {version : String} {state : JudgeState} {raw : Option Answers}
    {answers : Answers} (h : evaluateBrief version state raw = some answers) :
    checkAnswers (briefQuestions version state) answers = .ok () := by
  obtain ⟨given, -, hgiven⟩ := Option.bind_eq_some_iff.mp h
  split at hgiven
  · next hok =>
    rw [Option.some.injEq] at hgiven
    rw [← hgiven]
    exact hok
  · exact absurd hgiven (by simp)

namespace Desk

/-- What holds at the desk throughout a run: messages have distinct ids in storing order, a stored
brief evaluation fits the questions over the messages it was judged on, and every shown brief is
well made. -/
structure Inv (briefing : Briefing) (desk : Desk) : Prop where
  sorted : desk.messages.Pairwise fun a b => a.id < b.id
  judged : ∀ stored ∈ desk.evaluations,
    stored.evaluation.questionSetVersion = briefing.briefVersion →
      stored.judged <+: desk.messages ∧
        checkAnswers (briefQuestions briefing.briefVersion (briefing.state stored.judged))
          stored.evaluation.answers = .ok ()
  shown : ∀ shown ∈ desk.shown, shown.WellMade briefing desk.messages

/-- Ids in storing order are distinct. -/
theorem Inv.distinct {briefing : Briefing} {desk : Desk} (inv : desk.Inv briefing) :
    (desk.messages.map Message.id).Nodup :=
  List.pairwise_map.mpr (inv.sorted.imp ne_of_lt)

/-- A stored brief is an evaluation of the desk, made with the brief questions. -/
theorem mem_of_storedBrief {briefing : Briefing} {desk : Desk} {action : Action}
    {stored : JudgedBrief} (h : desk.storedBrief briefing action = some stored) :
    stored ∈ desk.evaluations ∧
      stored.evaluation.questionSetVersion = briefing.briefVersion := by
  obtain ⟨since, -, hfind⟩ := Option.bind_eq_some_iff.mp h
  refine ⟨List.mem_reverse.mp (List.mem_of_find?_eq_some hfind), ?_⟩
  have := List.find?_some hfind
  simp only [Evaluation.isBriefFor, Bool.and_eq_true, beq_iff_eq] at this
  exact this.1.1.2

/-- An attempt keeps the invariant. -/
theorem Inv.attempt {briefing : Briefing} {desk : Desk} (inv : desk.Inv briefing)
    (about : Subject) {loaded : List Message} (hloaded : loaded <+: desk.messages)
    (raw : Option Answers) (recorded : Bool) (now : Int) :
    (desk.attempt briefing about loaded raw recorded now).Inv briefing := by
  unfold Desk.attempt
  -- A brief on record is shown again, with what was read when it was judged.
  cases hstored : desk.storedBrief briefing about.action with
  | some stored =>
    obtain ⟨hmem, hversion⟩ := mem_of_storedBrief hstored
    obtain ⟨harrived, hchecked⟩ := inv.judged stored hmem hversion
    refine ⟨inv.sorted, inv.judged, ?_⟩
    intro shown hshown
    rcases List.mem_append.mp hshown with hold | hnew
    · exact inv.shown shown hold
    · rw [List.mem_singleton.mp hnew]
      exact ⟨harrived, hloaded, hchecked, rfl⟩
  | none =>
    cases hjudge : evaluateBrief briefing.briefVersion (briefing.state loaded) raw with
    | none => simpa only [hjudge] using inv
    -- A new brief is judged on what is loaded now, and checked against that.
    | some answers =>
      have hchecked := checked_of_evaluateBrief hjudge
      simp only [hjudge]
      refine ⟨inv.sorted, ?_, ?_⟩
      · intro stored hstored' hversion
        have hcases : stored ∈ desk.evaluations ∨
            stored.judged = loaded ∧ stored.evaluation.answers = answers := by
          split at hstored'
          · rcases List.mem_append.mp hstored' with hold | hnew
            · exact Or.inl hold
            · rw [List.mem_singleton.mp hnew]
              exact Or.inr ⟨rfl, rfl⟩
          · exact Or.inl hstored'
        rcases hcases with hold | ⟨hjudged, hanswers⟩
        · exact inv.judged stored hold hversion
        · rw [hjudged, hanswers]
          exact ⟨hloaded, hchecked⟩
      · intro shown hshown
        rcases List.mem_append.mp hshown with hold | hnew
        · exact inv.shown shown hold
        · rw [List.mem_singleton.mp hnew]
          exact ⟨hloaded, hloaded, hchecked, rfl⟩

/-- **One step** keeps the invariant. -/
theorem Inv.step {briefing : Briefing} {desk : Desk} (inv : desk.Inv briefing)
    (input : DeskInput) : (desk.step briefing input).Inv briefing := by
  cases input with
  | arrive id message =>
    rw [Desk.step]
    split
    · next hnew =>
      rw [List.all_eq_true] at hnew
      refine ⟨?_, ?_, ?_⟩
      · rw [List.pairwise_append]
        refine ⟨inv.sorted, List.pairwise_singleton _ _, ?_⟩
        intro earlier hearlier last hlast
        rw [List.mem_singleton.mp hlast]
        simpa [NewMessage.row] using hnew earlier hearlier
      · intro stored hstored hversion
        obtain ⟨harrived, hchecked⟩ := inv.judged stored hstored hversion
        exact ⟨harrived.trans (List.prefix_append _ _), hchecked⟩
      · intro shown hshown
        exact Shown.WellMade.append (inv.shown shown hshown) _
    · exact inv
  | pend about now => exact ⟨inv.sorted, inv.judged, inv.shown⟩
  | turn answers action now =>
    refine ⟨inv.sorted, ?_, inv.shown⟩
    intro stored hstored hversion
    rcases List.mem_append.mp hstored with hold | hnew
    · exact inv.judged stored hold hversion
    · rw [List.mem_singleton.mp hnew] at hversion
      exact absurd hversion briefing.versions_ne
  | attempt about seen raw recorded now =>
    exact inv.attempt about ( List.take_prefix seen desk.messages) raw recorded now

/-- **A whole run** keeps the invariant. -/
theorem inv_run (briefing : Briefing) (inputs : List DeskInput) :
    (run briefing inputs).Inv briefing := by
  have from' : ∀ desk : Desk, desk.Inv briefing →
      (inputs.foldl (step briefing) desk).Inv briefing := by
    induction inputs with
    | nil => exact fun _ inv => inv
    | cons input rest ih => exact fun desk inv => ih _ (inv.step input)
  exact from' start ⟨by simp [start], by simp [start], by simp [start]⟩

/-- **Quotes across retries.** In every run, every brief quotes the messages the judge chose, if
and only if no attempt's quotes were moved by messages dated before the chosen ones. -/
theorem authentic_run_iff (briefing : Briefing) (inputs : List DeskInput) :
    (∀ shown ∈ (run briefing inputs).shown, shown.Authentic) ↔
      ∀ shown ∈ (run briefing inputs).shown, shown.Undisturbed briefing := by
  have inv := inv_run briefing inputs
  refine forall_congr' fun shown => forall_congr' fun hshown => ?_
  exact Shown.authentic_iff_undisturbed inv.distinct (inv.shown shown hshown)

/-! ### A late message dated early -/

/-- A session, its thresholds and question sets. -/
def plainBriefing : Briefing :=
  { nip19 := fun _ => false
    session := NewSession.row ⟨0, 0, none, none, none, none, 0⟩
    openedBy := .buyer
    maxMessageChars := 2000
    thresholds := ⟨9 / 10, 7 / 10, 1 / 2, 1 / 2, 1 / 2, 1 / 2, ["en"]⟩
    briefVersion := "qs-1-brief"
    turnVersion := "qs-1-turn"
    versions_ne := by decide }

/-- The buyer's statement, and what the buyer wrote later with a clock set back. -/
def statement : NewMessage :=
  ⟨0, .inbound, .buyer, none, none, "I sent it by SEPA today", 0, .party 1, 100⟩

def lateGreeting : NewMessage :=
  ⟨0, .inbound, .buyer, none, none, "hello?", 0, .party 2, 50⟩

/-- The judge quotes the only message for the payment, and nothing else. -/
def quotedAnswers : Answers :=
  .ofList [
    ("quote_buyer_payment", Answer.choice (.ofList [("m1", (1 : ℚ)), ("none", 0)])),
    ("quote_buyer_details", Answer.choice (.ofList [("m1", (0 : ℚ)), ("none", 1)])),
    ("quote_concern", Answer.choice (.ofList [("m1", (0 : ℚ)), ("none", 1)])),
    ("evidence_balance", Answer.score [0, 0, 0, 1, 0])]

/-- The brief is judged, no solver gets it, the late message arrives, and the brief is retried. -/
def retriedRun : List DeskInput :=
  [.arrive 1 statement, .pend (.handoff .humanRequested) 200,
    .attempt (.handoff .humanRequested) 1 (some quotedAnswers) true 200,
    .arrive 2 lateGreeting, .attempt (.handoff .humanRequested) 2 none false 400]

/-- **A retried brief quotes the wrong message.** The judge chose the buyer's statement; the retry
shows the late greeting in its place. -/
theorem not_authentic_of_late_message :
    ¬ ∀ (briefing : Briefing) (inputs : List DeskInput),
        ∀ shown ∈ (run briefing inputs).shown, shown.Authentic := by
  intro always
  -- What the retry quotes, the message judged under that id, and the one shown under it.
  have retried : ((run plainBriefing retriedRun).shown[1]?.map fun shown =>
      (shown.brief.quoteBuyerPayment, messageAt shown.judged "m1", messageAt shown.loaded "m1")) =
      some (some "m1", some (statement.row 1), some (lateGreeting.row 2)) := by
    decide +kernel
  obtain ⟨shown, hshown, hquote⟩ := Option.map_eq_some_iff.mp retried
  obtain ⟨hid, hjudged, hloaded⟩ : shown.brief.quoteBuyerPayment = some "m1" ∧
      messageAt shown.judged "m1" = some (statement.row 1) ∧
      messageAt shown.loaded "m1" = some (lateGreeting.row 2) := by
    simpa only [Prod.mk.injEq] using hquote
  have hmem : "m1" ∈ shown.brief.quoteIds := by simp [Brief.quoteIds, hid]
  obtain ⟨message, hmessage, hother⟩ :=
    always plainBriefing retriedRun shown (List.mem_of_getElem? hshown) "m1" hmem
  rw [hjudged, Option.some.injEq] at hmessage
  rw [hloaded, Option.some.injEq] at hother
  rw [← hother] at hmessage
  exact absurd hmessage (by decide)

end Desk

end Serbero
