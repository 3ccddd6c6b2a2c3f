import Serbero.Judge.Questions
import Serbero.Lib.Alone
import Serbero.Runtime.Lifecycle
import Serbero.Store.Growth

/-! # How long a transcript gets

The settings cap the length of a message, the messages of one turn and the rounds of questions.
None of them caps how many turns a session takes: a turn of a session that watches the parties may
answer nothing, counts no round, and settles its messages for the flood limit. The transcript it
judged stays, and the next turn judges all of it again with what came since. -/

namespace Serbero

open Pool Pool.Program

/-! ## The bound -/

/-- How many characters of text the transcript of a state holds. -/
def JudgeState.textLength (state : JudgeState) : Nat :=
  (state.transcript.map fun entry => entry.text.length).sum

/-- How long a template's text is, where it has one. -/
def Deployment.templateLength (deployment : Deployment) (lang : String) (template : Template)
    (withIntro : Bool) (amount : Option (String × String)) : Nat :=
  match deployment.render lang template withIntro amount with
  | .ok text => text.length
  | .error _ => 0

/-- The lengths of the texts of a catalog. -/
abbrev Lengths : Type := String → Template → Bool → Option (String × String) → Nat

/-- Some thread waits for the judge's answers about this state. -/
def AsksJudge (conf : Conf Call String Task World) (state : JudgeState) : Prop :=
  ∃ (number : Nat) (role : Task) (next : Except String Answers → Daemon Unit),
    conf.threads[number]? = some (role, Program.call (.evaluate state) next)

/-- A flood strike. -/
def EventKind.isFloodStrike : EventKind → Bool
  | .floodStrike _ _ _ => true
  | _ => false

/-- The parties keep to the rate limit and to the flood limit, with room to spare: a party's message
comes a minute or more after its last one, and no turn finds a party over the limit. -/
def withinLimits : Condition Call Task Oracle Happening World where
  call _ request _ _ :=
    match request with
    | .append new => !new.kind.isFloodStrike
    | _ => true
  launch _ _ _ := true
  happen event world :=
    match event with
    | .receive inbound =>
      inbound.createdAt == world.clock &&
        (world.store.listMessages inbound.sessionId).all fun message =>
          !message.isFrom inbound.party || decide (message.createdAt + 60 ≤ world.clock)
    | _ => true
  restart _ _ := true

/-- With these limits, some number that depends only on the catalog's text lengths bounds the
transcript text of every state that any run gives to the judge. -/
def InputBounded (maxMessageChars maxMessagesPerTurn maxRounds : Nat) : Prop :=
  ∃ bound : Lengths → Nat, ∀ deployment : Deployment,
    deployment.settings.maxMessageChars = maxMessageChars →
    deployment.settings.maxMessagesPerTurn = maxMessagesPerTurn →
    deployment.settings.maxRounds = maxRounds →
      ∀ clock conf state,
        (machine deployment).RunsTo withinLimits (Serbero.start clock) conf →
          AsksJudge conf state → state.textLength ≤ bound deployment.templateLength

/-- The text of a state is the text of its messages, each without identifiers and cut. -/
theorem textLength_buildState (nip19 : List Char → Bool) (session : Session)
    (openedBy : Initiator) (messages : List Message) (maxChars : Nat) :
    (buildState nip19 session openedBy messages maxChars).textLength =
      (messages.map fun message => (truncate (redact nip19 message.content) maxChars).length).sum := by
  have hfst : messages = messages.zipIdx.map Prod.fst := (List.zipIdx_map_fst 0 messages).symm
  rw [JudgeState.textLength, transcript_buildState, List.map_map]
  conv_rhs => rw [hfst, List.map_map]
  rfl

/-- What an evaluation of a turn was about is settled for the flood limit. -/
theorem le_countedUpTo {deployment : Deployment} (strikes : List (Party × Int))
    {evaluations : List Evaluation} {evaluation : Evaluation} (h : evaluation ∈ evaluations)
    (hturn : evaluation.questionSetVersion ≠ deployment.briefQuestions) :
    evaluation.lastMessageId ≤ countedUpTo deployment strikes evaluations := by
  have hmem : evaluation.lastMessageId ∈ (evaluations.filter fun evaluation =>
      evaluation.questionSetVersion != deployment.briefQuestions).map Evaluation.lastMessageId :=
    List.mem_map_of_mem (List.mem_filter.mpr ⟨h, by simpa using hturn⟩)
  unfold countedUpTo
  cases hmax : ((evaluations.filter fun evaluation =>
      evaluation.questionSetVersion != deployment.briefQuestions).map
        Evaluation.lastMessageId).max? with
  | none =>
    rw [List.max?_eq_none_iff] at hmax
    rw [hmax] at hmem
    exact absurd hmem List.not_mem_nil
  | some newest =>
    rw [Option.getD_some]
    exact le_trans ((List.max?_eq_some_iff.mp hmax).2 _ hmem) (le_max_right _ _)

/-! ## The calls of a turn -/

section calls

variable {deployment : Deployment} {thread : Thread Task} {world : World}

/-- What a thread does alone while the parties keep to the limits. -/
abbrev Stretch (deployment : Deployment) (thread : Thread Task) {α : Type} :
    Daemon α → World → Daemon α → World → Prop :=
  (machine deployment).Alone withinLimits thread

/-- A query answers from the store. -/
theorem stretch_read {β : Type} (query : Store → β) :
    Stretch deployment thread (perform (.read query)) world (done (query world.store))
      (world.look thread.number) :=
  Machine.Alone.perform Oracle.quiet rfl rfl

/-- A turn's load does as well. -/
theorem stretch_load (id : SessionId) :
    Stretch deployment thread (perform (.load id)) world (done (world.store.load id))
      (world.look thread.number) :=
  Machine.Alone.perform Oracle.quiet rfl rfl

/-- The time is the clock's. -/
theorem stretch_now :
    Stretch deployment thread (perform .now) world (done world.clock) world :=
  Machine.Alone.perform Oracle.quiet rfl rfl

/-- The judge is ready as the world says. -/
theorem stretch_readyJudge :
    Stretch deployment thread (perform .readyJudge) world (done world.judgeReady) world :=
  Machine.Alone.perform Oracle.quiet rfl rfl

/-- An evaluation is stored. -/
theorem stretch_insertEvaluation (new : NewEvaluation) :
    Stretch deployment thread (perform (.insertEvaluation new)) world (done ())
      (world.withStore (world.store.insertEvaluation new)) :=
  Machine.Alone.perform Oracle.quiet rfl rfl

/-- The turn is over. -/
theorem stretch_joinTurn (again : Bool) :
    Stretch deployment thread (perform (.joinTurn again)) world (done ())
      (world.turnOver thread.number again) :=
  Machine.Alone.perform Oracle.quiet rfl rfl

/-- A program that follows one whose stretch is known. -/
theorem stretch_bind {α β : Type} {program : Daemon α} {value : α} {next : α → Daemon β}
    {left : Daemon β} {world' later : World}
    (h : Stretch deployment thread program world (done value) world')
    (hnext : Stretch deployment thread (next value) world' left later) :
    Stretch deployment thread (program.bind next) world left later :=
  (h.bind next).trans hnext

/-! ## The parts of a turn -/

variable {session : Session} {messages : List Message} {now : Int}

/-- A turn that finds no party over the limit records no strike. -/
theorem stretch_flooded
    (hunder : ∀ party, messages.countP (fun message => message.isFrom party &&
      decide (message.id > countedUpTo deployment
        ((world.store.listEvents session.disputeId).filterMap (strikeOf session.sessionId))
        (world.store.listEvaluations session.sessionId))) ≤
          deployment.settings.maxMessagesPerTurn) :
    Stretch deployment thread (flooded deployment session messages now) world (done false)
      (world.look thread.number) := by
  have hnot : ∀ {count : Nat}, count ≤ deployment.settings.maxMessagesPerTurn →
      ¬overLimit count deployment.settings.maxMessagesPerTurn = true :=
    fun hle hover => not_lt.mpr hle (of_decide_eq_true hover)
  refine stretch_bind (stretch_read _) ?_
  simp only [foldEach, Party.both]
  rw [if_neg (hnot (hunder .buyer))]
  simp only [pure_eq, done_bind]
  rw [if_neg (hnot (hunder .seller))]
  exact .refl _ _

/-- Guidance that reached both parties is not sent again. -/
theorem stretch_resendGuides {path : Path}
    (hpath : guidedPath session (world.store.listEvents session.disputeId) = some path)
    (hgot : ∀ entry ∈ guides path, (world.store.listMessages session.sessionId).any
      (fun message => message.isSent entry.1 entry.2) = true) :
    Stretch deployment thread (resendGuides deployment session) world (done 0)
      (((world.look thread.number).look thread.number).look thread.number) := by
  refine stretch_bind (stretch_read _) ?_
  rw [hpath]
  obtain ⟨first, second, hguides⟩ : ∃ first second, guides path = [first, second] := by
    cases path <;> exact ⟨_, _, rfl⟩
  rw [hguides] at hgot
  -- Each of the two parties got its own.
  have hparty : ∀ (entry : Party × Template) (now : World), entry ∈ [first, second] →
      now.store = world.store →
        Stretch deployment thread (received session entry.1 entry.2) now (done true)
          (now.look thread.number) := by
    intro entry now hentry hstore
    have hread := @stretch_read deployment thread now _ fun store =>
      (store.listMessages session.sessionId).any fun message => message.isSent entry.1 entry.2
    rwa [hstore, hgot entry hentry] at hread
  simp only [sendGuides, hguides, foldEach]
  exact stretch_bind (stretch_bind (hparty first _ (by simp) rfl) (.refl _ _))
    (stretch_bind (stretch_bind (hparty second _ (by simp) rfl) (.refl _ _)) (.refl _ _))

/-- A turn in which some party wrote, and none too much, goes to the judge. -/
theorem stretch_mediatingTurn {openedBy : Initiator} {phase : Phase}
    (hready : world.judgeReady = true) (hphase : phaseOf session.state = some phase)
    (hwrote : ∃ party, (buildState deployment.nip19 session openedBy messages
      deployment.settings.maxMessageChars).latest party ≠ [])
    (hunder : ∀ party, messages.countP (fun message => message.isFrom party &&
      decide (message.id > countedUpTo deployment
        ((world.store.listEvents session.disputeId).filterMap (strikeOf session.sessionId))
        (world.store.listEvaluations session.sessionId))) ≤
          deployment.settings.maxMessagesPerTurn) :
    Stretch deployment thread (mediatingTurn deployment session messages openedBy now) world
      (judgeTurn deployment session messages phase (buildState deployment.nip19 session openedBy
        messages deployment.settings.maxMessageChars) now) (world.look thread.number) := by
  refine stretch_bind stretch_readyJudge ?_
  simp only [hready, hphase, Bool.not_true, Bool.false_eq_true, if_false]
  rw [liveTurn, if_neg]
  · exact stretch_bind (stretch_flooded hunder) (.refl _ _)
  · obtain ⟨party, hparty⟩ := hwrote
    intro hnone
    have hmem := mem_wrote.mpr hparty
    rw [List.isEmpty_iff.mp hnone] at hmem
    cases hmem

/-- The session is read again. -/
theorem stretch_reload {id : SessionId} (hsession : world.store.session id = some session) :
    Stretch deployment thread (reload id) world (done session) (world.look thread.number) := by
  refine stretch_bind (stretch_read _) ?_
  rw [hsession]
  exact .refl _ _

/-- No new language is detected, so none is set. -/
theorem stretch_updateLanguages {facts : Facts}
    (hsame : ∀ party, detectedLanguage deployment session facts party = none) :
    Stretch deployment thread (updateLanguages deployment session facts now) world (done [])
      world := by
  simp only [updateLanguages, foldEach, Party.both, hsame, pure_eq, done_bind]
  exact .refl _ _

/-- **The judge answers, and the turn decides and records.** Nothing else arrived, so what is left
of the turn is its action. -/
theorem stretch_judgeTurn {phase : Phase} {state : JudgeState} (answers : Answers)
    (hsession : world.store.session session.sessionId = some session)
    (hmessages : world.store.listMessages session.sessionId = messages)
    (hsame : ∀ party, detectedLanguage deployment session
      (Facts.fromAnswers answers deployment.thresholds deployment.settings.languages) party = none) :
    let facts := Facts.fromAnswers answers deployment.thresholds deployment.settings.languages
    let turn := turnOf deployment.settings deployment.thresholds.validatedLanguages phase session
      messages (world.store.listEvents session.disputeId) facts []
    let last := Store.newestMessageId messages
    let looked := (((world.look thread.number).look thread.number).look thread.number).look
      thread.number
    Stretch deployment thread (judgeTurn deployment session messages phase state now) world
      ((act deployment session ⟨state, answers, facts, last⟩ turn.next now turn.decide).bind
        fun _ => done (.decided turn.decide))
      (looked.withStore (world.store.insertEvaluation
        ⟨session.sessionId, deployment.turnQuestions, last, answers, turn.decide, now⟩)) := by
  intro facts turn last looked
  have hjudged : Stretch deployment thread (attempt (perform (.evaluate state))) world
      (done (.ok answers)) world :=
    Machine.Alone.perform { Oracle.quiet with answers := answers } rfl rfl
  have hnewer : (world.store.listMessages session.sessionId).any (fun message =>
      message.direction == .inbound && decide (message.id > Store.newestMessageId messages)) =
        false := by
    rw [hmessages, List.any_eq_false]
    intro message hmessage
    have := Store.le_newestMessageId hmessage
    simp [show ¬ message.id > Store.newestMessageId messages by omega]
  refine stretch_bind hjudged (stretch_bind (stretch_read _) ?_)
  rw [hnewer, if_neg Bool.false_ne_true]
  refine stretch_bind (stretch_read _) ?_
  rw [show (world.look thread.number).store = world.store from rfl, hsession]
  simp only [Option.all_some, bne_self_eq_false, Bool.false_eq_true, if_false]
  -- From here on the turn decides.
  refine stretch_bind (stretch_updateLanguages hsame) (stretch_bind (stretch_reload hsession) ?_)
  exact stretch_bind (stretch_read _) (stretch_bind (stretch_insertEvaluation _) (.refl _ _))

end calls

end Serbero
