import Serbero.Runtime.Sending

/-! # Opening a session

Which disputes Serbero takes, and opening a session with both parties: take, store the facts, open
the chat, greet both parties, and tell the solvers. -/

namespace Serbero

open Pool
open Pool.Program

/-- How an attempt to mediate a dispute ended. -/
inductive Opening
  | ineligible (reason : Ineligible)
  | notTaken (reason : String)
  /-- Taken, but the parties could not be reached. -/
  | handedOff (reason : String)
  | opened (sessionId : SessionId)
  deriving DecidableEq, Repr

/-- Each party's first question, sent with the intro. -/
def openers : List (Party × Template) :=
  [(.buyer, .askBuyerSent), (.seller, .askSellerReceived)]

variable (deployment : Deployment)

/-- Checks eligibility and, if eligible, marks the take as in flight in the same step. -/
def claim (dispute : DisputeId) : Daemon (Except Ineligible Unit) := do
  let known ← perform (.read fun store =>
    (store.dispute dispute).map fun row => (row.lifecycle, store.existsForDispute dispute))
  match known with
  | none => raise "unknown dispute"
  | some (lifecycle, hadSession) => perform (.claimTake dispute lifecycle hadSession)

/-- Stores the session with the order facts, and opens its chat channels. -/
def createSession (dispute : DisputeId) (info : SolverDisputeInfo) (now : Int) :
    Daemon Session :=
  if info.buyerPubkey.isNone || info.sellerPubkey.isNone then
    raise "the node did not send both trade keys"
  else do
    let facts ← perform .fetchOrder
    let session ← perform (.insertSession dispute info facts now)
    perform (.openChat session.sessionId)
    return session

/-- Sends a party its first question. -/
def greetParty (session : Session) (opener : Party × Template) : Daemon Unit := do
  let lang := deployment.settings.defaultLanguage
  let text ← ofExcept (deployment.render lang opener.2 true session.amount)
  sendToParty session ⟨opener.1, text, opener.2, lang⟩

/-- The intro and each party's first question, in the default language. -/
def greet (session : Session) : Daemon Unit := forEach (greetParty deployment session) openers

/-- Sends the solvers the "mediation could not start" notice and, once one received it, closes the
pending marker. A failure is logged: the timer task tries again. -/
def sendOpeningNotice (dispute : DisputeId) (now : Int) : Daemon Unit := do
  let delivered ← attempt (notifySolvers deployment.solvers dispute "handoff" now)
  match delivered with
  | .error _ => return ()
  | .ok delivered =>
    if delivered = 0 then return ()
    else
      let _ ← attempt (perform (.append ⟨dispute, none, .openingNoticeSent, now⟩))

/-- Serbero holds the dispute but cannot mediate it: the session, if any, is handed off and every
solver is asked to take over. -/
def abandon (dispute : DisputeId) (session : Option Session) (reason : String) (now : Int) :
    Daemon Opening := do
  perform (.abandon dispute (session.map Session.sessionId) reason now)
  match session with
  | some session =>
    perform (.closeChat session.sessionId)
    sendOpeningNotice deployment dispute now
    return .handedOff reason
  | none =>
    sendOpeningNotice deployment dispute now
    return .handedOff reason

/-- The end of an opening that reached both parties. -/
def activate (dispute : DisputeId) (session : Session) (now : Int) : Daemon Opening := do
  perform (.activate dispute session.sessionId now)
  let _ ← notifySolvers deployment.solvers dispute "mediation_started" now
  perform (.append ⟨dispute, some session.sessionId, .mediationOpened, now⟩)
  return .opened session.sessionId

/-- Take, store the facts, open the chat, greet both parties, and tell the solvers. -/
def openDispute (dispute : DisputeId) (now : Int) : Daemon Opening := do
  let taken ← attempt (perform (.takeDispute dispute))
  match taken with
  | .error reason =>
    perform (.append ⟨dispute, none, .mediationNotOpened reason, now⟩)
    return .notTaken reason
  | .ok info =>
    let created ← attempt (createSession dispute info now)
    match created with
    | .error reason => abandon deployment dispute none reason now
    | .ok session =>
      let greeted ← attempt (greet deployment session)
      match greeted with
      | .error failure =>
        abandon deployment dispute (some session) ("cannot reach the parties: " ++ failure) now
      | .ok () => activate deployment dispute session now

/-- Mediates the dispute if it is eligible; no outcome is an error for the caller. -/
def consider (dispute : DisputeId) (now : Int) : Daemon Opening := do
  let verdict ← attempt (claim dispute)
  match verdict with
  | .ok (.error reason) => return .ineligible reason
  | .ok (.ok ()) =>
    let outcome ← attempt (openDispute deployment dispute now)
    perform (.releaseTake dispute)
    match outcome with
    | .ok outcome => return outcome
    | .error failure => return .notTaken failure
  | .error failure => return .notTaken failure

/-- Considers every notified dispute first seen since `since` that never had a session. -/
def reconsider (since now : Int) : Daemon Unit := do
  let waiting ← attempt (perform (.read fun store => store.listNotifiedWithoutSession since))
  match waiting with
  | .error _ => return ()
  | .ok waiting =>
    forEach (fun row : Dispute => do
      let _ ← consider deployment row.disputeId now) waiting

end Serbero
