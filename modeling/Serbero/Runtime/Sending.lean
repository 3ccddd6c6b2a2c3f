import Serbero.Mediation.History
import Serbero.Runtime.World

/-! # Sending to parties and solvers

The three senders of party messages share one body and differ in the states that let a message
pass. A solver notification records every attempt. -/

namespace Serbero

open Pool
open Pool.Program

/-- An outbound message and what to record about it. -/
structure Outbound where
  party : Party
  text : String
  template : Template
  lang : String
  deriving DecidableEq, Repr

/-- Wraps the message, checks the gate, sends the event and records the message. The check comes
last before the send, so a revision that ended the session meanwhile stops it. -/
def sendWhen (rule : GateRule) (session : Session) (message : Outbound) : Daemon Unit := do
  let createdAt ← perform .wrap
  let passed : Passed := ⟨session.sessionId, message.party, message.template⟩
  perform (.gate rule passed)
  perform (.sendEvent passed)
  let _ ← perform (.insertMessage
    { sessionId := session.sessionId
      direction := .outbound
      party := message.party
      templateId := some message.template
      lang := some message.lang
      content := message.text
      attachments := 0
      innerEventId := .serbero createdAt message.text
      createdAt := createdAt })

/-- Sends a message to a party of a session that did not end. -/
def sendToParty (session : Session) (message : Outbound) : Daemon Unit :=
  sendWhen .live session message

/-- Sends a mediation message: never once the session was handed to a person. -/
def sendWhileMediating (session : Session) (message : Outbound) : Daemon Unit :=
  sendWhen .mediating session message

/-- Sends the closing message of a session the parties resolved. -/
def sendAfterClose (session : Session) (message : Outbound) : Daemon Unit :=
  sendWhen .closed session message

/-- The amount of the order, when both its value and its currency are known. -/
def Session.amount (session : Session) : Option (String × String) :=
  match session.fiatAmount, session.fiatCode with
  | some value, some currency => some (value, currency)
  | _, _ => none

section

variable (deployment : Deployment)

/-- The language a party is addressed in. -/
def languageOf (session : Session) (party : Party) : String :=
  session.language party deployment.settings.defaultLanguage

/-- A template rendered for a party, in its language. -/
def renderFor (session : Session) (party : Party) (template : Template) (withIntro : Bool) :
    Daemon Outbound := do
  let lang := languageOf deployment session party
  let text ← ofExcept (deployment.render lang template withIntro session.amount)
  return ⟨party, text, template, lang⟩

/-- Renders a template for a party and sends it; only the hand-off notice may follow a hand-off. The
first message in a language that the party was not written in starts with the intro. -/
def sendTemplate (session : Session) (party : Party) (template : Template) : Daemon Unit := do
  let lang := languageOf deployment session party
  let withIntro ← perform (.read fun store =>
    needsIntro (store.listMessages session.sessionId) party lang)
  let message ← renderFor deployment session party template withIntro
  if template = .handoffNotice then sendToParty session message
  else sendWhileMediating session message

end

/-- Whether the party already received this template in this session. -/
def received (session : Session) (party : Party) (template : Template) : Daemon Bool :=
  perform (.read fun store =>
    (store.listMessages session.sessionId).any fun message => message.isSent party template)

/-- Sends each solver one message and records the attempt. A failed delivery is recorded; a failed
record is raised once every solver was tried. Returns how many got it. -/
def notifySolvers (solvers : List Solver) (dispute : DisputeId) (notification : String)
    (now : Int) : Daemon Nat := do
  let (delivered, recordError) ← foldEach
    (fun (carried : Nat × Option String) solver => do
      let sent ← attempt (perform (.sendDm solver.pubkey dispute notification))
      let (delivered, kind) := match sent with
        | .ok () => (carried.1 + 1, EventKind.notificationSent solver.pubkey notification)
        | .error _ => (carried.1, EventKind.notificationFailed solver.pubkey notification)
      let recorded ← attempt (perform (.append ⟨dispute, none, kind, now⟩))
      match recorded with
      | .ok () => return (delivered, carried.2)
      | .error failure => return (delivered, some (carried.2.getD failure)))
    (0, none) solvers
  match recordError with
  | some failure => raise failure
  | none => return delivered

/-- Who gets the brief: every `write` solver, otherwise every solver. No code stores an assigned
solver, so none is ever known. -/
def recipients (solvers : List Solver) : List Solver :=
  let writers := solvers.filter fun solver => solver.permission == .write
  if writers.isEmpty then solvers else writers

/-- Sends a solver every part, in order; stops at the first one it did not get. -/
def deliverParts (solver : Solver) (dispute : DisputeId) (now : Int) :
    List String → Daemon Bool
  | [] => return true
  | notification :: rest => do
    let sentAt ← perform .now
    let sent ← notifySolvers [solver] dispute notification (max sentAt now)
    if sent = 0 then return false else deliverParts solver dispute now rest

/-- Sends every part to each solver. Returns how many solvers received all of them. -/
def deliver (solvers : List Solver) (dispute : DisputeId) (parts : List String) (now : Int) :
    Daemon Nat :=
  foldEach (fun complete solver => do
    let all ← deliverParts solver dispute now parts
    return complete + (if all then 1 else 0)) 0 solvers

end Serbero
