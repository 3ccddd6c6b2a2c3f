import Serbero.Mediation.Clocks
import Serbero.Runtime.Opening
import Serbero.Runtime.TurnLoop

/-! # The timer task

One pass over the live sessions: the timers of those gathering or guiding, then whatever did not
reach its recipient before. -/

namespace Serbero

open Pool
open Pool.Program

/-- A brief no solver received yet: the id of its pending event and what it was about. -/
def pendingBriefs (session : Session) (history : List Event) : List (Int × Subject) :=
  let ours := history.filter fun event => event.sessionId == some session.sessionId
  ours.filterMap fun event =>
    match event.kind with
    | .briefPending about =>
      if ours.any fun sent => sent.kind == .briefSent event.id then none
      else some (event.id, about)
    | _ => none

/-- When the session's hand-off or guidance last started. -/
def startedAt (session : Session) (history : List Event) : Option Int :=
  (history.filterMap fun event =>
    if event.sessionId = some session.sessionId then
      match event.kind with
      | .handoff _ _ | .guided _ => some event.createdAt
      | _ => none
    else none).max?

variable (deployment : Deployment)

/-- Whether replies can reach the session: its channels are open, or open now. -/
def chatOpen (session : Session) : Daemon Bool := do
  let isOpen ← perform (.chatIsOpen session.sessionId)
  if isOpen then return true
  else
    let opened ← attempt (perform (.openChat session.sessionId))
    match opened with
    | .ok () => return true
    | .error _ => return false

/-- The timers of one session. -/
def tickSession (session : Session) (now : Int) : Daemon Unit := do
  let (messages, history) ← perform (.read fun store =>
    (store.listMessages session.sessionId, store.listEvents session.disputeId))
  let settings := deployment.settings
  match (clocks session messages history now).check
      ⟨settings.responseTimeout, settings.selfResolutionTimeout, settings.handoffGrace⟩ with
  | .nothing => return ()
  | .remind parties =>
    forEach (fun party => sendTemplate deployment session party .reminder) parties
  | .handoff reason =>
    let last ← lastReading deployment session messages
    let _ ← handOff deployment session reason last now

/-- Sends a pending brief again. -/
def retryBrief (session : Session) (messages : List Message) (now : Int)
    (brief : Int × Subject) : Daemon Unit := do
  let last ← lastReading deployment session messages
  let delivered ← briefSolvers deployment session brief.2 last now
  if 0 < delivered then briefDelivered session brief.1 now else return ()

/-- Sends the hand-off notice to a party that has none. -/
def retryNotice (session : Session) (messages : List Message) (party : Party) : Daemon Unit :=
  if messages.any fun message => message.isSent party .handoffNotice then return ()
  else do
    let _ ← attempt (sendTemplate deployment session party .handoffNotice)

/-- Resends a session's party messages that did not arrive. An opening that failed never reached
the parties: Serbero writes nothing more to them. -/
def retryParties (session : Session) (messages : List Message) (held : Option Hold) :
    Daemon Unit :=
  match session.state with
  | .handedOff =>
    if session.handoffReason = some .openingFailed then return ()
    else forEach (retryNotice deployment session messages) Party.both
  | .guiding => do
    let _ ← resendGuides deployment session
  | .active =>
    match held with
    | some hold => sendHoldNotices deployment session hold.cutoff
    | none => return ()
  | _ => return ()

/-- Resends what a session's recipients did not get: pending briefs, the hand-off notice, and
guidance. A hand-off or guidance still sending is left to finish first. -/
def retryUndelivered (session : Session) (now : Int) : Daemon Unit := do
  let (messages, history) ← perform (.read fun store =>
    (store.listMessages session.sessionId, store.listEvents session.disputeId))
  let held := (Hold.current session.sessionId history messages).filter fun hold =>
    decide (now - hold.startedAt ≥ Hold.retryAfter deployment.settings.handoffGrace)
  if (startedAt session history).any fun at' => decide (now - at' < retryGraceSecs) then
    return ()
  else
    forEach (retryBrief deployment session messages now) (pendingBriefs session history)
    retryParties deployment session messages held

/-- Sends the "mediation could not start" notice of a dispute again, unless it is resolved. -/
def retryOpeningNotice (dispute : DisputeId) (now : Int) : Daemon Unit := do
  let resolved ← perform (.read fun store =>
    (store.dispute dispute).any fun row => row.lifecycle == .resolved)
  if resolved then return () else sendOpeningNotice deployment dispute now

/-- Resends "mediation could not start" notices no solver received. -/
def retryOpeningNotices (now : Int) : Daemon Unit := do
  let pending ← attempt (perform (.read fun store =>
    store.stillPending .openingNoticePending .openingNoticeSent 0))
  match pending with
  | .error _ => return ()
  | .ok pending =>
    forEach (fun dispute => do
      let _ ← attempt (retryOpeningNotice deployment dispute now)) pending

/-- The timers of a session that gathers or guides. A session no reply can reach goes to a
person. -/
def timeSession (session : Session) (now : Int) : Daemon Unit := do
  let isOpen ← chatOpen session
  if isOpen then tickSession deployment session now
  else
    let _ ← handOff deployment session .openingFailed none now

/-- One live session of a tick. -/
def tickLive (now : Int) (session : Session) : Daemon Unit := do
  let timed := session.state = .active ∨ session.state = .guiding
  let _ ← attempt (if timed then timeSession deployment session now else done ())
  let _ ← attempt (retryUndelivered deployment session now)

/-- One pass over the live sessions, then the closings and opening notices still pending. -/
def tick (now : Int) : Daemon Unit := do
  let live ← perform (.read Store.listLive)
  forEach (tickLive deployment now) live
  finishPending deployment (now - finishLookbackSecs) now
  retryOpeningNotices deployment now

end Serbero
