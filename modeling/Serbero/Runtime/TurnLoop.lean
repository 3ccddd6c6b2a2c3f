import Serbero.Mediation.Skew
import Serbero.Policy.Timers
import Serbero.Runtime.Guide

/-! # One turn

Judge the session as stored now, decide, record the evaluation, and act. -/

namespace Serbero

open Pool
open Pool.Program

/-- How a turn ended. -/
inductive TurnOutcome
  /-- Nothing to judge. -/
  | skipped (why : String)
  /-- Not judged yet; the turn runs again after the quiet period. -/
  | deferred (why : String)
  /-- The judge failed after its retries; the session was handed off. -/
  | judgeFailed (failure : String)
  | decided (action : Action)
  /-- After a hand-off: this many new party messages went to the solvers. -/
  | forwarded (count : Nat)
  deriving DecidableEq, Repr

/-- Whether a party message arrived after `messages` was read. -/
def newerThan (session : Session) (messages : List Message) : Daemon Bool :=
  perform (.read fun store =>
    (store.listMessages session.sessionId).any fun message =>
      message.direction == .inbound && decide (message.id > Store.newestMessageId messages))

/-- Whether the session left the state this turn read it in. -/
def movedOn (session : Session) : Daemon Bool :=
  perform (.read fun store =>
    (store.session session.sessionId).all fun current => current.state != session.state)

/-- The session as stored now. -/
def reload (id : SessionId) : Daemon Session := do
  let current ← perform (.read fun store => store.session id)
  match current with
  | some session => return session
  | none => raise "the session disappeared"

/-- A party's flood strike, as recorded in a session's events. -/
def strikeOf (id : SessionId) (event : Event) : Option (Party × Int) :=
  if event.sessionId = some id then
    match event.kind with
    | .floodStrike party _ last => some (party, last)
    | _ => none
  else none

/-- The evaluation is a turn's, not a brief's. -/
def Evaluation.ofTurn (evaluation : Evaluation) (deployment : Deployment) : Bool :=
  evaluation.questionSetVersion != deployment.briefQuestions

variable (deployment : Deployment)

/-- The newest message of the last judged turn or strike: messages already counted never count
again. A brief is not a settled turn. -/
def countedUpTo (strikes : List (Party × Int)) (evaluations : List Evaluation) : Int :=
  let judged := (((evaluations.filter fun evaluation =>
    evaluation.questionSetVersion != deployment.briefQuestions).map
      Evaluation.lastMessageId).max?).getD 0
  max (((strikes.map Prod.snd).max?).getD 0) judged

/-- Records a flood strike for each party over the limit in this turn; a party with enough strikes
floods the session. -/
def flooded (session : Session) (messages : List Message) (now : Int) : Daemon Bool := do
  let (events, evaluations) ← perform (.read fun store =>
    (store.listEvents session.disputeId, store.listEvaluations session.sessionId))
  let strikes := events.filterMap (strikeOf session.sessionId)
  let counted := countedUpTo deployment strikes evaluations
  foldEach (fun flooded party => do
    let count := messages.countP fun message =>
      message.isFrom party && decide (message.id > counted)
    if overLimit count deployment.settings.maxMessagesPerTurn then
      perform (.append ⟨session.disputeId, some session.sessionId,
        .floodStrike party count (Store.newestMessageId messages), now⟩)
      let earlier := strikes.countP fun strike => strike.1 == party
      return flooded || isFlood (earlier + 1)
    else return flooded) false Party.both

/-- The last turn's answers over the current state, if a turn was judged with the question set in
use. -/
def lastReading (session : Session) (messages : List Message) : Daemon (Option TurnReading) := do
  let ready ← perform .readyJudge
  if !ready then return none
  else
    let (last, openedBy) ← perform (.read fun store =>
      ((store.listEvaluations session.sessionId).reverse.find? fun evaluation =>
        evaluation.questionSetVersion == deployment.turnQuestions,
        (store.dispute session.disputeId).map Dispute.initiator))
    match last, openedBy with
    | some last, some openedBy =>
      return some
        { state := buildState deployment.nip19 session openedBy messages
            deployment.settings.maxMessageChars
          answers := last.answers
          facts := Facts.fromAnswers last.answers deployment.thresholds
            deployment.settings.languages
          lastMessageId := Store.newestMessageId messages }
    | _, _ => return none

/-- The language the judge detected for a party, when it is another one. -/
def detectedLanguage (session : Session) (facts : Facts) (party : Party) : Option String :=
  ((facts.party party).bind PartyFacts.language).filter fun lang =>
    lang != languageOf deployment session party

/-- A party's language changes when the judge detects another one. Returns who changed. -/
def updateLanguages (session : Session) (facts : Facts) (now : Int) : Daemon (List Party) :=
  foldEach (fun changed party =>
    match detectedLanguage deployment session facts party with
    | some lang => do
      perform (.setLanguage session.sessionId party lang now)
      return changed ++ [party]
    | none => return changed) [] Party.both

/-- Sends a party its templates and counts its round as soon as its question is sent, so a failed
send to the other party cannot lose it. Returns whether the next round is the turn's first. -/
def askParty (session : Session) (next : NextQuestions) (templates : Party → List Template)
    (now : Int) (firstInTurn : Bool) (party : Party) : Daemon Bool := do
  forEach (sendTemplate deployment session party) (templates party)
  if next.asks party then
    perform (.countRound session.sessionId party firstInTurn now)
    return false
  else return firstInTurn

/-- What a turn does once its evaluation is recorded. -/
def act (session : Session) (reading : TurnReading) (next : NextQuestions) (now : Int) :
    Action → Daemon Unit
  | .ask buyer seller => do
    let templates : Party → List Template
      | .buyer => buyer
      | .seller => seller
    let _ ← foldEach (askParty deployment session next templates now) true Party.both
  | .handoff reason => do
    let _ ← handOff deployment session reason (some reading) now
  | .guide path => guide deployment session path reading now
  | .hold => do
    -- The grace starts when the hold does: the judge may have taken a while.
    let started ← perform .now
    hold deployment session (max started now)
  | .wait => return ()

/-- Decides on the judge's answers, records the evaluation, and acts. -/
def decideAndAct (session : Session) (messages : List Message) (phase : Phase)
    (state : JudgeState) (answers : Answers) (now : Int) : Daemon TurnOutcome := do
  let facts := Facts.fromAnswers answers deployment.thresholds deployment.settings.languages
  let changed ← updateLanguages deployment session facts now
  let current ← reload session.sessionId
  let events ← perform (.read fun store => store.listEvents current.disputeId)
  let turn := turnOf deployment.settings deployment.thresholds.validatedLanguages phase current
    messages events facts changed
  let action := turn.decide
  let last := Store.newestMessageId messages
  perform (.insertEvaluation
    { sessionId := current.sessionId
      questionSetVersion := deployment.turnQuestions
      lastMessageId := last
      answers := answers
      action := action
      now := now })
  act deployment current ⟨state, answers, facts, last⟩ turn.next now action
  return .decided action

/-- Judges the messages a live session has, and acts unless they are outdated by then. -/
def judgeTurn (session : Session) (messages : List Message) (phase : Phase) (state : JudgeState)
    (now : Int) : Daemon TurnOutcome := do
  let judged ← attempt (perform (.evaluate state))
  match judged with
  | .error failure =>
    -- The adapter already retried: the solvers take over with the transcript.
    let _ ← handOff deployment session .judgeUnavailable none now
    return .judgeFailed failure
  | .ok answers =>
    let newer ← newerThan session messages
    if newer then return .deferred "newer party messages arrived"
    else
      let moved ← movedOn session
      if moved then return .skipped "session changed while judging"
      else decideAndAct deployment session messages phase state answers now

/-- A turn of a session that gathers facts or watches. -/
def liveTurn (session : Session) (messages : List Message) (openedBy : Initiator) (phase : Phase)
    (now : Int) : Daemon TurnOutcome := do
  let state := buildState deployment.nip19 session openedBy messages
    deployment.settings.maxMessageChars
  if (wrote state).isEmpty then
    return .skipped "no new party messages"
  else
    let flood ← flooded deployment session messages now
    if flood then
      -- The flooding turn is not judged; the solvers get the last judged turn's reading.
      let last ← lastReading deployment session messages
      let _ ← handOff deployment session .flood last now
      return .decided (.handoff .flood)
    else judgeTurn deployment session messages phase state now

/-- The phase of a session's state, if a turn may judge it. -/
def phaseOf : SessionState → Option Phase
  | .active => some .gathering
  | .guiding => some .guiding
  | _ => none

/-- A turn of a session that was not handed off. -/
def mediatingTurn (session : Session) (messages : List Message) (openedBy : Initiator)
    (now : Int) : Daemon TurnOutcome := do
  let ready ← perform .readyJudge
  if !ready then return .deferred "judge not ready"
  else
    match phaseOf session.state with
    | none => return .skipped "session not live"
    | some phase => liveTurn deployment session messages openedBy phase now

/-- One turn over the session as stored now. -/
def runTurn (id : SessionId) (now : Int) : Daemon TurnOutcome := do
  let loaded ← perform (.load id)
  match loaded with
  | none => return .skipped "session not live"
  | some (session, messages, openedBy) =>
    match session.state with
    | .handedOff =>
      -- Forwarding after a hand-off needs no judge.
      let count ← forwardUpdates deployment session now
      return .forwarded count
    | .guiding =>
      -- Guidance that did not reach a party goes out now.
      let _ ← attempt (resendGuides deployment session)
      mediatingTurn deployment session messages openedBy now
    | _ => mediatingTurn deployment session messages openedBy now

/-- The task of one turn: the turn loop hears whether it must run again. -/
def turnLogged (id : SessionId) : Daemon Unit := do
  let now ← perform .now
  let outcome ← attempt (runTurn deployment id now)
  match outcome with
  | .ok (.deferred _) => perform (.joinTurn true)
  | _ => perform (.joinTurn false)

end Serbero
