import Serbero.Mediation.Hold
import Serbero.Policy.Timers

/-! # The clocks of one session

Read from its messages and events. Whether a party replied is decided by arrival order (the stored
id), not by the time the party's client chose. -/

namespace Serbero

open LastOf

/-- The newest message, by arrival, that Serbero sent the party from a template of this kind. -/
def lastSent (messages : List Message) (party : Party) (pick : Template → Bool) : Option Message :=
  maxByKey Message.id (messages.filter fun message =>
    message.isTo party && message.templateId.any pick)

/-- One party's clock. -/
def partyClock (messages : List Message) (party : Party) : PartyClock :=
  let question := lastSent messages party Template.isQuestion
  let replied := question.any fun asked =>
    messages.any fun message => message.isFrom party && decide (message.id > asked.id)
  { questionAt := question.map Message.createdAt
    repliedAt := if replied then question.map Message.createdAt else none
    remindedAt := (lastSent messages party (· == .reminder)).map Message.createdAt }

/-- When the session's guidance started, from its `guided` events. -/
def guidedTimes (sessionId : SessionId) (history : List Event) : List Int :=
  history.filterMap fun event =>
    match event.kind with
    | .guided _ => if event.sessionId = some sessionId then some event.createdAt else none
    | _ => none

/-- The clocks of one session. -/
def clocks (session : Session) (messages : List Message) (history : List Event) (now : Int) :
    Clocks :=
  { phase := if session.state = .guiding then .guiding else .gathering
    now := now
    buyer := partyClock messages .buyer
    seller := partyClock messages .seller
    guidedAt := (guidedTimes session.sessionId history).max?
    heldAt := (Hold.current session.sessionId history messages).map Hold.startedAt }

end Serbero
