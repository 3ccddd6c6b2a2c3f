import Serbero.Mediation.Quotes
import Serbero.Runtime.Sending

/-! # Handing a session to a human

The brief and the transcript to the solvers, the notice to the parties, and afterwards the parties'
new messages forwarded as updates. -/

namespace Serbero

open Pool
open Pool.Program

/-- The last turn's judge reading. -/
structure TurnReading where
  state : JudgeState
  answers : Answers
  facts : Facts
  /-- The newest stored message id in `state`. -/
  lastMessageId : Int

variable (deployment : Deployment)

/-- The answers of the brief already judged for the session's current pending brief. -/
def storedBrief (session : Session) (action : Action) : Daemon (Option Answers) :=
  perform (.read fun store =>
    (pendingSince session (store.listEvents session.disputeId)).bind fun since =>
      ((store.listEvaluations session.sessionId).reverse.find? fun evaluation =>
        evaluation.isBriefFor session deployment.briefQuestions action since).map
          Evaluation.answers)

/-- What becomes of the judge's answers to a brief: a failure costs the quotes only. -/
def judgedBrief (session : Session) (reading : TurnReading) (subject : Subject) (now : Int) :
    Except String Answers → Daemon Brief
  | .error _ => return Brief.empty
  | .ok answers => do
    let _ ← attempt (perform (.insertEvaluation
      { sessionId := session.sessionId
        questionSetVersion := deployment.briefQuestions
        lastMessageId := reading.lastMessageId
        answers := answers
        action := subject.action
        now := now }))
    return Brief.fromAnswers reading.state answers deployment.thresholds

/-- The brief request. A retry reuses the answers stored for it; a failure costs the quotes, not the
brief. -/
def askBrief (session : Session) (reading : TurnReading) (subject : Subject) (now : Int) :
    Daemon Brief := do
  let stored ← attempt (storedBrief deployment session subject.action)
  match stored with
  | .ok (some answers) =>
    return Brief.fromAnswers reading.state answers deployment.thresholds
  | _ =>
    let judged ← attempt (perform (.evaluate reading.state))
    judgedBrief deployment session reading subject now judged

/-- Asks the judge the brief questions when a reading exists, then sends the brief and the
transcript. Returns how many solvers received them. -/
def briefSolvers (session : Session) (subject : Subject) (reading : Option TurnReading)
    (now : Int) : Daemon Nat := do
  let messages ← perform (.read fun store => store.listMessages session.sessionId)
  let ready ← perform .readyJudge
  let _ ← match reading with
    | some reading =>
      if ready then askBrief deployment session reading subject now else done Brief.empty
    | none => done Brief.empty
  deliver (recipients deployment.solvers) session.disputeId
    ("brief" :: List.replicate (deployment.parts messages) "transcript") now

/-- Marks a pending brief as delivered. -/
def briefDelivered (session : Session) (pending now : Int) : Daemon Unit :=
  perform (.append ⟨session.disputeId, some session.sessionId, .briefSent pending, now⟩)

/-- Tells a party about the hand-off, unless it was told. A notice that failed is retried by the
timer task. -/
def tellHandoff (session : Session) (party : Party) : Daemon Unit := do
  let told ← received session party .handoffNotice
  if told then return ()
  else
    let _ ← attempt (sendTemplate deployment session party .handoffNotice)

/-- Hands the session to a human. The session is claimed first, so it is handed off once and never
after it ended. Returns whether this call claimed it. -/
def handOff (session : Session) (reason : HandoffReason) (reading : Option TurnReading)
    (now : Int) : Daemon Bool := do
  let claimed ← perform (.handOff session reason now)
  match claimed with
  | none => return false
  | some pending =>
    let delivered ← briefSolvers deployment session (.handoff reason) reading now
    if 0 < delivered then
      briefDelivered session pending now
      forEach (tellHandoff deployment session) Party.both
      return true
    else
      -- With no delivery the brief stays pending, and the timer task retries it.
      forEach (tellHandoff deployment session) Party.both
      return true

/-- After a hand-off, forwards the party messages the solvers have not seen as one update. -/
def forwardUpdates (session : Session) (now : Int) : Daemon Nat := do
  let fresh ← perform (.read fun store =>
    let seen := Store.lastSeen (store.listEvents session.disputeId) session.sessionId
    (store.listMessages session.sessionId).filter fun message =>
      message.direction == .inbound && decide (message.id > seen))
  match fresh.getLast? with
  | none => return 0
  | some last =>
    let delivered ← deliver (recipients deployment.solvers) session.disputeId
      (List.replicate (deployment.parts fresh) "update") now
    if delivered = 0 then return 0
    else
      perform (.append ⟨session.disputeId, some session.sessionId, .updateSent last.id, now⟩)
      return fresh.length

end Serbero
