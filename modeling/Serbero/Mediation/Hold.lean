import Mathlib.Data.Prod.Lex
import Serbero.Lib.LastOf
import Serbero.Store.Rows

/-! # The hold before a `facts_gathered` hand-off

Whether a session holds for its parties is derived from the event log and the message log: the
latest `held` event, unless a fact question was sent to a party since. -/

namespace Serbero

open LastOf

/-- A session's current hold. -/
structure Hold where
  /-- When it started. -/
  startedAt : Int
  /-- The newest stored message when it started: a question sent after it ends the hold. -/
  cutoff : Int
  deriving DecidableEq, Repr

/-- How long after a hand-off or guidance started its notices are left to that call. -/
def retryGraceSecs : Int := 120

/-- How long after the hold started the timer task resends a missing notice: the usual retry
grace, but never more than half of `handoff_grace`. -/
def Hold.retryAfter (handoffGrace : Nat) : Int := min retryGraceSecs (secs (handoffGrace / 2))

/-- A `held` event of the session. -/
def Event.isHeld (event : Event) (sessionId : SessionId) : Bool :=
  event.sessionId == some sessionId &&
    match event.kind with
    | .held _ => true
    | _ => false

/-- The cutoff a `held` event records; one without a cutoff never ends by a question. -/
def Event.heldCutoff (event : Event) : Int :=
  match event.kind with
  | .held (some lastMessageId) => lastMessageId
  | _ => i64Max

/-- A fact question was sent to some party after message `cutoff`. -/
def askedSince (messages : List Message) (cutoff : Int) : Bool :=
  messages.any fun message =>
    message.direction == .outbound && decide (message.id > cutoff) &&
      message.templateId.any Template.isQuestion

/-- The session's hold, if it holds now. -/
def Hold.current (sessionId : SessionId) (history : List Event) (messages : List Message) :
    Option Hold :=
  match maxByKey (fun event => toLex (event.createdAt, event.id))
      (history.filter fun event => event.isHeld sessionId) with
  | none => none
  | some held =>
    if askedSince messages held.heldCutoff then none
    else some ⟨held.createdAt, held.heldCutoff⟩

end Serbero
