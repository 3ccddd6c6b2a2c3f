import Serbero.Runtime.Tick

/-! # The daemon

The notifier's tasks, and the machine that all of Serbero's tasks run on. -/

namespace Serbero

open Pool
open Pool.Program

variable (deployment : Deployment)

/-- Tells every solver about a new dispute; the dispute becomes `notified` once at least one message
was delivered. Returns whether one was. -/
def notifyNew (dispute : DisputeEvent) (now : Int) : Daemon Bool := do
  let delivered ← notifySolvers deployment.solvers dispute.disputeId "new_dispute" now
  if 0 < delivered then
    perform (.markNotified dispute.disputeId now)
    return true
  else return false

/-- Whether Serbero took the dispute: a take of its own is in flight, or it has a live session. -/
def takenBySerbero (dispute : DisputeId) : Daemon Bool := do
  let taking ← perform (.isTaking dispute)
  if taking then return true
  else perform (.read fun store => (store.liveForDispute dispute).isSome)

/-- Handles one event of the dispute subscription. -/
def handleEvent (dispute : DisputeEvent) (now : Int) : Daemon Change := do
  let change ← perform (.record dispute now)
  match change with
  | .new =>
    let notified ← notifyNew deployment dispute now
    if notified then
      perform (.spawn (.consider dispute.disputeId))
      return change
    else return change
  | .taken =>
    let _ ← takenBySerbero dispute.disputeId
    let _ ← notifySolvers deployment.solvers dispute.disputeId "taken" now
    return change
  | .resolved status =>
    perform (.spawn (.finish dispute.disputeId status status.resolvedByParties))
    return change
  | _ => return change

/-- Reminds the solvers of one due dispute, or notifies them for the first time. -/
def remindDue (now : Int) (due : Dispute) : Daemon Unit := do
  let current ← perform (.read fun store => store.dispute due.disputeId)
  match current.filter fun row => row.lifecycle == .new || row.lifecycle == .notified with
  | none => return ()
  | some row =>
    let notification := if row.lifecycle = .new then "new_dispute" else "reminder"
    let delivered ← notifySolvers deployment.solvers row.disputeId notification now
    if 0 < delivered then
      perform (.markNotified row.disputeId now)
      -- Every first message had failed: the dispute only now becomes a candidate for mediation.
      if row.lifecycle = .new then perform (.spawn (.consider row.disputeId)) else return ()
    else return ()

/-- Reminds solvers of disputes nobody has taken for a while. -/
def remind (renotifyAfter now : Int) : Daemon Unit := do
  let due ← perform (.read fun store => store.listAwaitingSolver (now - renotifyAfter))
  forEach (remindDue deployment now) due

/-- Opens every live session's channels again; one that cannot be opened is skipped. -/
def resume : Daemon Unit := do
  let live ← perform (.read Store.listLive)
  forEach (fun session : Session => do
    let _ ← attempt (perform (.openChat session.sessionId))) live

/-- The program of a task. -/
def program : Task → Daemon Unit
  | .consider dispute => do
    let now ← perform .now
    let _ ← consider deployment dispute now
  | .judgeChecks started => do
    perform .setReady
    let now ← perform .now
    reconsider deployment started now
  | .turn id => turnLogged deployment id
  | .tick => do
    let now ← perform .now
    let _ ← attempt (tick deployment now)
    perform .joinTick
  | .handleEvent dispute => do
    let now ← perform .now
    let _ ← handleEvent deployment dispute now
  | .remind renotifyAfter => do
    let now ← perform .now
    remind deployment renotifyAfter now
  | .finish dispute status byParties => do
    let now ← perform .now
    let _ ← finish deployment dispute status byParties now
  | .finishPending => do
    let now ← perform .now
    finishPending deployment (now - finishLookbackSecs) now
  | .resume => resume

/-- The machine of a deployment. -/
def machine : Machine Call String Task Oracle Happening World where
  perform := performCall deployment
  enabled := callEnabled
  task := program deployment
  launch thread _ world := launch thread world
  happen := happen deployment
  restart := restart

/-- Serbero before its first task. -/
def start (clock : Int) : Conf Call String Task World := ⟨World.start clock, []⟩

end Serbero
