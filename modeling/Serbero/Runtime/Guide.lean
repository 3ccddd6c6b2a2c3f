import Serbero.Runtime.Handoff

/-! # Guidance, holds and closings

Explaining the option that fits, holding a session for the parties before a hand-off, and closing a
session when the dispute ended. -/

namespace Serbero

open Pool
open Pool.Program

/-- The guidance for each path, the party who would act first. -/
def guides : Path → List (Party × Template)
  | .paymentArrived => [(.seller, .guideArrivedSeller), (.buyer, .guideArrivedBuyer)]
  | .paymentNotSent => [(.buyer, .guideNotSentBuyer), (.seller, .guideNotSentSeller)]

/-- How a session ended. -/
inductive Outcome
  | selfResolved
  | handedOff (reason : HandoffReason)
  | superseded
  deriving DecidableEq, Repr

/-- How the session ended, from what it recorded before it closed. -/
def outcome (session : Session) (byParties : Bool) : Outcome :=
  match session.handoffReason with
  | some reason => .handedOff reason
  | none =>
    if session.state = .superseded || !byParties then .superseded else .selfResolved

variable (deployment : Deployment)

/-- Sends each guide template its party has not received, each on its own. Returns how many are
still missing. -/
def sendGuides (session : Session) (path : Path) : Daemon Nat :=
  foldEach (fun missing (entry : Party × Template) => do
    let got ← received session entry.1 entry.2
    if got then return missing
    else
      let sent ← attempt (sendTemplate deployment session entry.1 entry.2)
      match sent with
      | .ok () => return missing
      | .error _ => return missing + 1) 0 (guides path)

/-- Enters `guiding`, briefs the solvers, and explains the path to both parties. The session is
claimed first, so guidance is sent once and never after the session moved on. -/
def guide (session : Session) (path : Path) (reading : TurnReading) (now : Int) :
    Daemon Unit := do
  let claimed ← perform (.startGuiding session path now)
  match claimed with
  | none => return ()
  | some pending =>
    let delivered ← briefSolvers deployment session (.guide path) (some reading) now
    if 0 < delivered then
      briefDelivered session pending now
      let _ ← sendGuides deployment session path
    else
      let _ ← sendGuides deployment session path

/-- The path of the session's newest `guided` event. -/
def guidedPath (session : Session) (events : List Event) : Option Path :=
  (events.reverse.find? fun event =>
    event.sessionId == some session.sessionId &&
      match event.kind with
      | .guided _ => true
      | _ => false).bind fun event =>
    match event.kind with
    | .guided path => some path
    | _ => none

/-- Sends the guidance a guiding session's parties have not received yet. -/
def resendGuides (session : Session) : Daemon Nat := do
  let path ← perform (.read fun store =>
    guidedPath session (store.listEvents session.disputeId))
  match path with
  | some path => sendGuides deployment session path
  | none => return 0

/-! ## Holds -/

/-- Sends the hold notice to a party who has not received it since the hold started. -/
def sendHoldNotice (session : Session) (cutoff : Int) (party : Party) : Daemon Unit := do
  let got ← attempt (perform (.read fun store =>
    (store.listMessages session.sessionId).any fun message =>
      message.isSent party .holdNotice && decide (message.id > cutoff)))
  match got with
  | .ok false =>
    let _ ← attempt (sendTemplate deployment session party .holdNotice)
  | _ => return ()

/-- Sends the hold notice to each party who has not received it, each on its own. -/
def sendHoldNotices (session : Session) (cutoff : Int) : Daemon Unit :=
  forEach (sendHoldNotice deployment session cutoff) Party.both

/-- Starts the hold: recorded first, then both parties are told. -/
def hold (session : Session) (now : Int) : Daemon Unit := do
  let cutoff ← perform (.recordHold session now)
  sendHoldNotices deployment session cutoff

/-! ## Closings -/

/-- Thanks a party, unless it was thanked. Returns whether nothing is left to send. -/
def thank (session : Session) (complete : Bool) (party : Party) : Daemon Bool := do
  let got ← received session party .resolvedThanks
  if got then return complete
  else
    let sent ← attempt (do
      let message ← renderFor deployment session party .resolvedThanks false
      sendAfterClose session message)
    match sent with
    | .ok () => return complete
    | .error _ => return false

/-- Thanks both parties of a dispute they resolved themselves. -/
def thankParties (session : Session) (ended : Outcome) : Daemon Bool :=
  if ended = .selfResolved then foldEach (thank deployment session) true Party.both
  else return true

/-- A `notification_sent` event of the final report. -/
def Event.isReport (event : Event) : Bool :=
  match event.kind with
  | .notificationSent _ notification => notification == "final_report"
  | _ => false

/-- Sends the final report, unless it was sent. Returns whether some solver has it. -/
def sendReport (dispute : DisputeId) (history : List Event) (now : Int) : Daemon Bool :=
  if history.any Event.isReport then return true
  else do
    let delivered ← notifySolvers (recipients deployment.solvers) dispute "final_report" now
    return decide (0 < delivered)

/-- The dispute reached its final status: thank the parties if they resolved it, and send the
solvers the final report. The closing is recorded as finished only when all of it went out. -/
def closeResolved (dispute : DisputeId) (status : DisputeStatus) (byParties : Bool) (now : Int) :
    Daemon (Option Outcome) := do
  let (latest, history) ← perform (.read fun store =>
    (store.latestForDispute dispute, store.listEvents dispute))
  match latest with
  | none => return none
  | some session =>
    if history.any Store.isFinished then return none
    else
      perform (.closeChat session.sessionId)
      let ended := outcome session byParties
      let thanked ← thankParties deployment session ended
      let reported ← sendReport deployment dispute history now
      let complete := thanked && reported
      if complete then
        perform (.append ⟨dispute, some session.sessionId, .finished status, now⟩)
        return some ended
      else return some ended

/-- One closing at a time: the resolution hook and `finishPending` may both try the same dispute. -/
def finish (dispute : DisputeId) (status : DisputeStatus) (byParties : Bool) (now : Int) :
    Daemon (Option Outcome) := do
  perform .lockFinishing
  let result ← attempt (closeResolved deployment dispute status byParties now)
  perform .unlockFinishing
  ofExcept result

/-- How far back the startup looks for closings that did not complete. -/
def finishLookbackSecs : Int := 7 * 24 * 3600

/-- Completes the closings of disputes resolved since `since` that did not finish. -/
def finishPending (since now : Int) : Daemon Unit := do
  let pending ← attempt (perform (.read fun store => store.unfinishedResolutions since))
  match pending with
  | .error _ => return ()
  | .ok pending =>
    forEach (fun resolution : Resolution => do
      let _ ← attempt (finish deployment resolution.disputeId resolution.status
        resolution.byParties now)) pending

end Serbero
