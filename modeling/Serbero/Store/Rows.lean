import Serbero.Judge.Answer
import Serbero.Policy.Action

/-! # The rows of the store

One structure per table, with the columns some modelled function reads or writes. Event payloads
are JSON in the source; here each kind carries its payload as typed fields. -/

namespace Serbero

/-- The inner event id of a chat message. A party's id is opaque; Serbero's own is a hash of when
it was written and what it says, and names no recipient. -/
inductive InnerEventId
  | party (id : Nat)
  | serbero (createdAt : Int) (text : String)
  deriving DecidableEq, Repr

/-- A message exchanged with a party, with its arrival number as `id`. -/
structure Message where
  id : Int
  sessionId : SessionId
  direction : Direction
  party : Party
  /-- Outbound only: the catalog template that produced the text. -/
  templateId : Option Template
  /-- Outbound only: the language it was rendered in. -/
  lang : Option String
  content : String
  attachments : Nat
  innerEventId : InnerEventId
  /-- The validated inner event's time: for an inbound message, the party's own clock. -/
  createdAt : Int
  deriving DecidableEq, Repr

namespace Message

/-- Serbero sent the message, from this template. -/
def isSent (message : Message) (party : Party) (template : Template) : Bool :=
  message.direction == .outbound && message.party == party && message.templateId == some template

/-- Serbero asked the party a fact with this message. -/
def isQuestionTo (message : Message) (party : Party) : Bool :=
  message.direction == .outbound && message.party == party &&
    message.templateId.any Template.isQuestion

/-- The party wrote this message. -/
def isFrom (message : Message) (party : Party) : Bool :=
  message.direction == .inbound && message.party == party

/-- Serbero sent this message to the party. -/
def isTo (message : Message) (party : Party) : Bool :=
  message.direction == .outbound && message.party == party

/-- A message of the party is not one that Serbero sent. -/
theorem not_isTo_of_isFrom {message : Message} {party : Party} (h : message.isFrom party = true) :
    message.isTo party = false := by
  cases hd : message.direction <;> simp_all [isFrom, isTo]

/-- A question to the party is a message to the party, from a question template. -/
theorem isQuestionTo_eq (message : Message) (party : Party) :
    message.isQuestionTo party =
      (message.isTo party && message.templateId.any Template.isQuestion) := rfl

/-- What the history's search for questions finds in one message. -/
theorem isQuestionTo_iff (message : Message) (party : Party) :
    message.isQuestionTo party = true ↔
      message.isTo party = true ∧ (message.templateId.filter Template.isQuestion).isSome := by
  rw [isQuestionTo_eq, Bool.and_eq_true]
  cases h : message.templateId with
  | none => simp
  | some template => cases hq : template.isQuestion <;> simp [Option.filter, hq]

end Message

/-- A session: Serbero assisting one dispute. -/
structure Session where
  sessionId : SessionId
  disputeId : DisputeId
  state : SessionState
  fiatAmount : Option String
  fiatCode : Option String
  paymentMethod : Option String
  orderPublishedAt : Option Int
  buyerLang : Option String
  sellerLang : Option String
  /-- Question rounds in the session, for reports. -/
  rounds : Nat
  /-- Question rounds per party; the round limit applies to these. -/
  buyerRounds : Nat
  sellerRounds : Nat
  handoffReason : Option HandoffReason
  openedAt : Int
  updatedAt : Int
  deriving DecidableEq, Repr

/-- The language a party is addressed in: detected, or `default`. -/
def Session.language (session : Session) (party : Party) (default : String) : String :=
  match party with
  | .buyer => session.buyerLang.getD default
  | .seller => session.sellerLang.getD default

/-- A session as opened after a successful take. -/
structure NewSession where
  sessionId : SessionId
  disputeId : DisputeId
  fiatAmount : Option String
  fiatCode : Option String
  paymentMethod : Option String
  orderPublishedAt : Option Int
  now : Int
  deriving DecidableEq, Repr

/-- The row a new session is inserted as, in state `opening`. -/
def NewSession.row (new : NewSession) : Session :=
  { sessionId := new.sessionId
    disputeId := new.disputeId
    state := .opening
    fiatAmount := new.fiatAmount
    fiatCode := new.fiatCode
    paymentMethod := new.paymentMethod
    orderPublishedAt := new.orderPublishedAt
    buyerLang := none
    sellerLang := none
    rounds := 0
    buyerRounds := 0
    sellerRounds := 0
    handoffReason := none
    openedAt := new.now
    updatedAt := new.now }

/-- A dispute seen on the Mostro node. -/
structure Dispute where
  disputeId : DisputeId
  initiator : Initiator
  status : DisputeStatus
  /-- `created_at` of the applied dispute event revision. -/
  statusAt : Int
  lifecycle : Lifecycle
  firstSeenAt : Int
  lastNotifiedAt : Option Int
  updatedAt : Int
  deriving DecidableEq, Repr

/-- A message to be stored; the store gives it its arrival number. -/
structure NewMessage where
  sessionId : SessionId
  direction : Direction
  party : Party
  templateId : Option Template
  lang : Option String
  content : String
  attachments : Nat
  innerEventId : InnerEventId
  createdAt : Int
  deriving DecidableEq, Repr

/-- The row a new message is inserted as. -/
def NewMessage.row (new : NewMessage) (id : Int) : Message :=
  { id := id
    sessionId := new.sessionId
    direction := new.direction
    party := new.party
    templateId := new.templateId
    lang := new.lang
    content := new.content
    attachments := new.attachments
    innerEventId := new.innerEventId
    createdAt := new.createdAt }

/-- What an audit event records, with its payload. -/
inductive EventKind
  | detected (status : DisputeStatus) (initiator : Initiator)
  | statusChanged (before after : DisputeStatus)
  | resolved (status : DisputeStatus) (byParties : Bool) (resolvedAt : Int)
  | sessionSuperseded (status : DisputeStatus)
  | sessionClosed (status : DisputeStatus)
  | mediationNotOpened (reason : String)
  | mediationOpened
  | mediationFailed (reason : String)
  /-- A "mediation could not start" notice no solver received yet. -/
  | openingNoticePending
  | openingNoticeSent
  | handoff (reason : HandoffReason) (lastMessageId : Int)
  | guided (path : Path)
  /-- An event without a cutoff never ends by a question. -/
  | held (lastMessageId : Option Int)
  /-- A brief no solver has received yet. -/
  | briefPending (about : Subject)
  /-- Closes a `briefPending` event. -/
  | briefSent (pending : Int)
  | updateSent (lastMessageId : Int)
  | floodStrike (party : Party) (messages : Nat) (lastMessageId : Int)
  | notificationSent (solver : Nat) (notification : String)
  | notificationFailed (solver : Nat) (notification : String)
  | observerPending (observer : Nat) (subject : String)
  | finished (status : DisputeStatus)
  deriving DecidableEq, Repr

/-- An entry of the append-only audit log. -/
structure Event where
  id : Int
  disputeId : DisputeId
  sessionId : Option SessionId
  kind : EventKind
  createdAt : Int
  deriving DecidableEq, Repr

/-- A judge request with its answers and the action taken: a turn's, or a brief's. -/
structure Evaluation where
  id : Int
  sessionId : SessionId
  questionSetVersion : String
  /-- The stored id of the newest message in the state that was judged. -/
  lastMessageId : Int
  answers : Answers
  action : Action
  createdAt : Int

end Serbero
