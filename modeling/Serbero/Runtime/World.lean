import Serbero.Lib.Pool
import Serbero.Judge.Brief
import Serbero.Mediation.Plan
import Serbero.Store.Tables

/-! # The world Serbero's tasks share

The store, the memory of the process, the revisions the node published, and the calls a task makes
on them. A call is what runs without another task in between: one section under the store's lock,
one exchange with a relay, the node, the judge or a solver. What Serbero cannot decide, such as a
failure or a reply, comes with the step.

The gate that orders party messages with session-ending revisions is held shared over one check and
exclusively over one revision, so it adds nothing to both being one call each. -/

namespace Serbero

/-- Who may write to a dispute: a `read` solver only watches. -/
inductive Permission
  | read
  | write
  deriving DecidableEq, Repr

/-- A configured solver. -/
structure Solver where
  pubkey : Nat
  permission : Permission
  deriving DecidableEq, Repr

/-- What the configuration and the code outside this model decide. -/
structure Deployment where
  settings : Settings
  thresholds : Thresholds
  solvers : List Solver
  observers : List Nat
  /-- The identifiers of the turn questions and of the brief questions. -/
  turnQuestions : String
  briefQuestions : String
  /-- The catalog: a template's text in a language, with or without the intro and the amount. -/
  render : String → Template → Bool → Option (String × String) → Except String String
  /-- Which lower-case words are Nostr identifiers. -/
  nip19 : List Char → Bool
  /-- How many messages a transcript or an update takes. -/
  parts : List Message → Nat

/-! ## The node -/

/-- A dispute event revision. -/
structure DisputeEvent where
  disputeId : DisputeId
  initiator : Initiator
  status : DisputeStatus
  revisionAt : Int
  /-- For the record: which of the node's events it is, and whether Serbero's own take caused it.
  Nothing in an event tells. -/
  number : Nat
  own : Bool
  deriving DecidableEq, Repr

/-- What the node tells a solver who took a dispute, as far as it is read. -/
structure SolverDisputeInfo where
  buyerPubkey : Option String
  sellerPubkey : Option String
  fiatAmount : Int
  paymentMethod : String
  deriving DecidableEq, Repr

/-- The node's reply to a take. A take may also succeed while its reply is lost. -/
inductive TakeReply
  | refused
  | lost (initiator : Initiator) (revisionAt : Int)
  | took (initiator : Initiator) (revisionAt : Int) (info : SolverDisputeInfo)
  deriving DecidableEq, Repr

/-- The facts read from the order event; unknown facts stay unknown. -/
structure OrderEvent where
  fiatCode : Option String
  publishedAt : Option Int
  deriving DecidableEq, Repr

/-! ## Results -/

/-- What a dispute event changed in the store. -/
inductive Change
  | new
  | firstSeen (status : DisputeStatus)
  | taken
  | takenAgain
  | resolved (status : DisputeStatus)
  | updated (before after : DisputeStatus)
  | unchanged
  deriving DecidableEq, Repr

/-- Why a dispute is not mediated. -/
inductive Ineligible
  | disabled
  | judgeNotReady
  | notNotified (lifecycle : Lifecycle)
  | hadSession
  | alreadyTaking
  deriving DecidableEq, Repr

/-- What eligibility reads about a dispute and Serbero. -/
structure Candidate where
  enabled : Bool
  ready : Bool
  lifecycle : Lifecycle
  hadSession : Bool
  taking : Bool
  deriving DecidableEq, Repr

/-- Whether Serbero may take a dispute. -/
def Candidate.check (candidate : Candidate) : Except Ineligible Unit :=
  if !candidate.enabled then .error .disabled
  else if !candidate.ready then .error .judgeNotReady
  else if candidate.lifecycle ≠ .notified then .error (.notNotified candidate.lifecycle)
  else if candidate.hadSession then .error .hadSession
  else if candidate.taking then .error .alreadyTaking
  else .ok ()

/-- In which states a session lets a message of one of the three senders pass. -/
inductive GateRule
  /-- `send_to_party`: until the session ended. -/
  | live
  /-- `send_while_mediating`: never once it was handed to a person. -/
  | mediating
  /-- `send_after_close`: the closing message of a session the parties resolved. -/
  | closed
  deriving DecidableEq, Repr

/-- Whether the rule lets a message pass in a session state. -/
def GateRule.allows : GateRule → SessionState → Bool
  | live, state => !state.isTerminal
  | mediating, state => state.isMediating
  | closed, state => state == .closed

/-- The tasks the daemon spawns. -/
inductive Task
  /-- The hook of a new dispute. -/
  | consider (disputeId : DisputeId)
  /-- The judge's startup checks, which end with the disputes that arrived before. -/
  | judgeChecks (started : Int)
  /-- One turn of a session, spawned by the turn loop. -/
  | turn (sessionId : SessionId)
  | tick
  /-- A dispute event delivered by a relay. -/
  | handleEvent (dispute : DisputeEvent)
  | remind (renotifyAfter : Int)
  /-- The hook of a resolved dispute. -/
  | finish (disputeId : DisputeId) (status : DisputeStatus) (byParties : Bool)
  | finishPending
  /-- Reopening the chats of live sessions after a start. -/
  | resume
  deriving DecidableEq, Repr

/-! ## The world -/

/-- A party message that passed the gate's check. -/
structure Passed where
  sessionId : SessionId
  party : Party
  template : Template
  deriving DecidableEq, Repr

/-- Who claimed the hand-off of a session. -/
inductive Claimer
  /-- `Mediator::hand_off`, with the newest message id then. -/
  | handOff (reason : HandoffReason) (lastMessageId : Int)
  /-- `abandon`. -/
  | abandon
  deriving DecidableEq, Repr

/-- A notification a solver got, and how many closings had begun by then. -/
structure Told where
  closing : Nat
  solver : Nat
  disputeId : DisputeId
  notification : String
  deriving DecidableEq, Repr

/-- The store as a thread read it. -/
structure Look where
  thread : Nat
  store : Store

/-- Everything the tasks share. -/
structure World where
  store : Store
  /-- The clock of the process. -/
  clock : Int
  /-- The dispute events the node published, oldest first. -/
  published : List DisputeEvent
  /-- Disputes Serbero is taking right now, each with the thread that claimed it. -/
  ownTakes : List (DisputeId × Nat)
  /-- The judge passed its startup checks. -/
  judgeReady : Bool
  /-- Sessions whose channels are registered. -/
  openChats : List SessionId
  /-- Session ids announced to the turn loop and not received yet. -/
  announced : List SessionId
  /-- Sessions whose turn has a deadline. -/
  deadlines : List SessionId
  /-- Sessions due again while their turn runs. -/
  dueAgain : List SessionId
  /-- Running turns, by the thread that runs them. -/
  running : List (Nat × SessionId)
  /-- The closing that holds the lock of closings, by the thread that runs it. -/
  finishing : Option Nat
  /-- The pass of the timers under way, by the thread that runs it. -/
  ticking : Option Nat
  /-- Tasks a hook spawned and that did not start yet. -/
  spawned : List Task
  /-- For the record: which thread inserted each session, in the order of their ids. -/
  openedBy : List Nat
  /-- For the record: how many revisions were published when each session was inserted. -/
  insertedAt : List Nat
  /-- For the record: sessions whose opening was left without a state change of its own. -/
  strayed : List SessionId
  /-- For the record: sessions set to active. -/
  activated : List SessionId
  /-- For the record: the messages that passed the gate's check, in order. -/
  passed : List Passed
  /-- For the record: the messages between the gate's check and the relay send, each with the
  thread that sends it. -/
  sending : List (Nat × Passed)
  /-- For the record: the messages a relay accepted, in order. -/
  sent : List Passed
  /-- For the record: the messages a relay accepted and that are not stored yet, each with the
  thread that sent it. -/
  recording : List (Nat × Passed)
  /-- For the record: the hold notices a relay accepted since the session's newest hold. -/
  holdNotices : List (SessionId × Party)
  /-- For the record: how many closings began. -/
  closings : Nat
  /-- For the record: the notifications the solvers got, in order. -/
  told : List Told
  /-- For the record: the store as each thread read it, in order. -/
  looks : List Look
  /-- For the record: the claims of hand-offs, in order. -/
  claims : List (SessionId × Claimer)
  /-- For the record: the dispute events applied, in order. -/
  recorded : List DisputeEvent

/-- The first start, on a fresh database. -/
def World.start (clock : Int) : World :=
  { store := .empty
    clock := clock
    published := []
    ownTakes := []
    judgeReady := false
    openChats := []
    announced := []
    deadlines := []
    dueAgain := []
    running := []
    finishing := none
    ticking := none
    spawned := []
    openedBy := []
    insertedAt := []
    strayed := []
    activated := []
    passed := []
    sending := []
    sent := []
    recording := []
    holdNotices := []
    closings := 0
    told := []
    looks := []
    claims := []
    recorded := [] }

namespace World

/-- The node may publish a revision: a final one was the dispute's last, and revisions are stamped
in order. -/
def canPublish (world : World) (dispute : DisputeEvent) : Bool :=
  dispute.number == world.published.length && world.published.all fun earlier =>
    earlier.disputeId != dispute.disputeId ||
      (!earlier.status.isFinal && decide (earlier.revisionAt ≤ dispute.revisionAt))

/-- The node publishes a revision. -/
def publish (world : World) (dispute : DisputeEvent) : World :=
  { world with published := world.published ++ [dispute] }

/-- The store after a section under its lock. -/
def withStore (world : World) (store : Store) : World := { world with store := store }

/-- A thread reads the store. -/
def look (world : World) (thread : Nat) : World :=
  { world with looks := world.looks ++ [⟨thread, world.store⟩] }

end World

/-! ## The calls -/

/-- What a step decides for Serbero. -/
structure Oracle where
  /-- The call fails before it had any effect, with this text. -/
  fails : Option String
  /-- The call fails after it had its effect, with this text. -/
  breaks : Option String
  take : TakeReply
  order : OrderEvent
  answers : Answers
  /-- The sessions whose messages cannot be read at the start. -/
  unreadable : List SessionId

/-- Nothing fails and nothing is known. -/
def Oracle.quiet : Oracle :=
  { fails := none
    breaks := none
    take := .refused
    order := ⟨none, none⟩
    answers := ∅
    unreadable := [] }

/-- The calls of Serbero's tasks. -/
inductive Call : Type → Type 1
  /-- A section under the store's lock that only reads. -/
  | read {α : Type} (query : Store → α) : Call α
  /-- The section a turn starts with: the session, its messages and who opened the dispute. -/
  | load (id : SessionId) : Call (Option (Session × List Message × Initiator))
  | now : Call Int
  | readyJudge : Call Bool
  | setReady : Call Unit
  /-- The section under the lock of own takes: check eligibility, and claim the dispute. -/
  | claimTake (id : DisputeId) (lifecycle : Lifecycle) (hadSession : Bool) :
      Call (Except Ineligible Unit)
  | releaseTake (id : DisputeId) : Call Unit
  | isTaking (id : DisputeId) : Call Bool
  | takeDispute (id : DisputeId) : Call SolverDisputeInfo
  | fetchOrder : Call OrderEvent
  /-- The section that inserts the session of a take and reads it back. -/
  | insertSession (id : DisputeId) (info : SolverDisputeInfo) (order : OrderEvent) (now : Int) :
      Call Session
  | openChat (id : SessionId) : Call Unit
  | closeChat (id : SessionId) : Call Unit
  | chatIsOpen (id : SessionId) : Call Bool
  /-- Wrapping a text for a party: the time of its inner event. -/
  | wrap : Call Int
  /-- The check of the gate, right before the relay send. -/
  | gate (rule : GateRule) (message : Passed) : Call Unit
  /-- The relay send of a message that passed the gate. -/
  | sendEvent (message : Passed) : Call Unit
  | insertMessage (new : NewMessage) : Call Bool
  /-- The transaction at the end of an opening. -/
  | activate (dispute : DisputeId) (id : SessionId) (now : Int) : Call Unit
  /-- The transaction of an opening that failed. -/
  | abandon (dispute : DisputeId) (id : Option SessionId) (reason : String) (now : Int) : Call Unit
  | append (new : NewEvent) : Call Unit
  /-- The transaction that claims a session for a hand-off; the pending brief, if it did. -/
  | handOff (session : Session) (reason : HandoffReason) (now : Int) : Call (Option Int)
  /-- The transaction that claims a session for guidance; the pending brief, if it did. -/
  | startGuiding (session : Session) (path : Path) (now : Int) : Call (Option Int)
  /-- The section that records a hold; its cutoff. -/
  | recordHold (session : Session) (now : Int) : Call Int
  | setLanguage (id : SessionId) (party : Party) (lang : String) (now : Int) : Call Unit
  | countRound (id : SessionId) (party : Party) (firstInTurn : Bool) (now : Int) : Call Unit
  | insertEvaluation (new : NewEvaluation) : Call Unit
  /-- A judge request over a state. -/
  | evaluate (state : JudgeState) : Call Answers
  | sendDm (solver : Nat) (dispute : DisputeId) (notification : String) : Call Unit
  | lockFinishing : Call Unit
  | unlockFinishing : Call Unit
  /-- Storing a dispute event revision, under the gate. -/
  | record (dispute : DisputeEvent) (now : Int) : Call Change
  | markNotified (id : DisputeId) (now : Int) : Call Unit
  | spawn (task : Task) : Call Unit
  /-- The end of a turn's task, and whether the turn must run again. -/
  | joinTurn (again : Bool) : Call Unit
  /-- The end of a pass of the timers: their loop may start the next one. -/
  | joinTick : Call Unit

/-- A program of Serbero; errors are their texts. -/
abbrev Daemon (α : Type) : Type 1 := Pool.Program Call String α

/-! ## What the calls do -/

/-- The row of the session that a take opens. -/
def openingSession (store : Store) (clock : Int) (id : DisputeId) (info : SolverDisputeInfo)
    (order : OrderEvent) (now : Int) : NewSession :=
  { sessionId := store.sessions.length
    disputeId := id
    fiatAmount := some (toString info.fiatAmount)
    fiatCode := order.fiatCode
    paymentMethod := if info.paymentMethod.isEmpty then none else some info.paymentMethod
    orderPublishedAt := order.publishedAt
    -- The take may have taken seconds: the session is stamped when it exists.
    now := max clock now }

/-- The subject of an observer notice about a session that opened, or could not. -/
def mediatingSubject : String := "mediating"

@[inherit_doc mediatingSubject]
def openingFailedSubject : String := "mediation could not start"

namespace Store

variable (store : Store)

/-- The transaction of `Mediator::hand_off` and the event id of the pending brief. -/
def claimHandOff (observers : List Nat) (session : Session) (reason : HandoffReason) (now : Int) :
    Option (Int × Store) :=
  let claimed := store.handOff session.sessionId reason now
  if claimed.1 then
    let last := newestMessageId (claimed.2.listMessages session.sessionId)
    let store := claimed.2.append
      ⟨session.disputeId, some session.sessionId, .handoff reason last, now⟩
    let store := store.append
      ⟨session.disputeId, some session.sessionId, .briefPending (.handoff reason), now⟩
    some (store.newestEventId,
      store.queueForObservers observers session.disputeId (Subject.handoff reason).text now)
  else none

/-- The transaction of `Mediator::guide` and the event id of the pending brief. -/
def claimGuiding (observers : List Nat) (session : Session) (path : Path) (now : Int) :
    Option (Int × Store) :=
  let claimed := store.startGuiding session.sessionId now
  if claimed.1 then
    let store := claimed.2.append
      ⟨session.disputeId, some session.sessionId, .guided path, now⟩
    let store := store.append
      ⟨session.disputeId, some session.sessionId, .briefPending (.guide path), now⟩
    some (store.newestEventId,
      store.queueForObservers observers session.disputeId (Subject.guide path).text now)
  else none

/-- The transaction of an opening that failed. -/
def abandonOpening (observers : List Nat) (dispute : DisputeId) (id : Option SessionId)
    (reason : String) (now : Int) : Store :=
  let store := match id with
    | some id => (store.handOff id .openingFailed now).2
    | none => store
  let store := store.append ⟨dispute, id, .mediationFailed reason, now⟩
  let store := store.append ⟨dispute, id, .openingNoticePending, now⟩
  store.queueForObservers observers dispute openingFailedSubject now

/-- Ends the dispute's live session, if any, and records why. -/
def endLiveSession (dispute : DisputeEvent) (state : SessionState)
    (kind : DisputeStatus → EventKind) (now : Int) : Store :=
  match store.liveForDispute dispute.disputeId with
  | none => store
  | some session =>
    (store.setState session.sessionId state now).append
      ⟨dispute.disputeId, some session.sessionId, kind dispute.status, now⟩

/-- Serbero opens its session only after its own take succeeded, so an in-progress revision newer
than the session's opening is someone else's take. -/
def takeOver (dispute : DisputeEvent) (now : Int) : Store :=
  if (store.liveForDispute dispute.disputeId).any fun session =>
      decide (dispute.revisionAt > session.openedAt) then
    store.endLiveSession dispute .superseded .sessionSuperseded now
  else store

/-- Moves the life cycle for a newer revision of a known dispute. -/
def transition (dispute : DisputeEvent) (existing : Dispute) (now : Int) : Change × Store :=
  match dispute.status with
  | .inProgress =>
    let store := store.takeOver dispute now
    match existing.lifecycle with
    | .new | .notified => (.taken, store.setLifecycle dispute.disputeId .taken now)
    | .taken => (.takenAgain, store)
    | .resolved => (.updated existing.status dispute.status, store)
  | status =>
    if status.isFinal then
      let store := store.setLifecycle dispute.disputeId .resolved now
      let store := store.endLiveSession dispute .closed .sessionClosed now
      (.resolved status, store.append
        ⟨dispute.disputeId, none,
          .resolved status status.resolvedByParties dispute.revisionAt, now⟩)
    else (.updated existing.status dispute.status, store)

/-- Stores a dispute event revision and records what changed. -/
def record (dispute : DisputeEvent) (now : Int) : Change × Store :=
  match store.dispute dispute.disputeId with
  | none =>
    let inserted := store.insertDisputeIfNew
      ⟨dispute.disputeId, dispute.initiator, dispute.status, dispute.revisionAt, now⟩
    let (change, moved) :=
      if dispute.status = .initiated then (Change.new, inserted)
      else (Change.firstSeen dispute.status, inserted.setLifecycle dispute.disputeId
        (if dispute.status.isFinal then .resolved else .taken) now)
    (change, moved.append
      ⟨dispute.disputeId, none, .detected dispute.status dispute.initiator, now⟩)
  | some existing =>
    match store.applyStatus dispute.disputeId dispute.status dispute.revisionAt now with
    | (.applied, applied) =>
      (applied.append
        ⟨dispute.disputeId, none, .statusChanged existing.status dispute.status, now⟩).transition
          dispute existing now
    | (_, same) => (.unchanged, same)

/-- The newest message id the solvers have seen for a session. -/
def lastSeen (events : List Event) (id : SessionId) : Int :=
  ((events.filterMap fun event =>
    if event.sessionId = some id then
      match event.kind with
      | .handoff _ last => some last
      | .updateSent last => some last
      | _ => none
    else none).max?).getD 0

/-- The session, its messages in order, and who opened the dispute. -/
def load (id : SessionId) : Option (Session × List Message × Initiator) :=
  (store.session id).bind fun session =>
    (store.dispute session.disputeId).map fun dispute =>
      (session, store.listMessages id, dispute.initiator)

/-- The newest of a list of messages, by arrival, is a party's. -/
def newestIsInbound (messages : List Message) : Bool :=
  (LastOf.maxByKey Message.id messages).any fun message => message.direction == .inbound

/-- Live sessions whose turn is scheduled at the start: those whose newest message, by arrival, is a
party's; and handed-off ones with messages the solvers have not seen. -/
def pendingSessions (unreadable : List SessionId) : List SessionId :=
  (store.listLive.filter fun session =>
    !unreadable.contains session.sessionId &&
      let messages := store.listMessages session.sessionId
      if session.state = .handedOff then
        let seen := lastSeen (store.listEvents session.disputeId) session.sessionId
        messages.any fun message => message.direction == .inbound && decide (message.id > seen)
      else newestIsInbound messages).map Session.sessionId

end Store

namespace World

/-- A call that may fail before it has any effect. -/
def orFail {β : Type} (world : World) (oracle : Oracle) (done : Except String β × World) :
    Except String β × World :=
  match oracle.fails with
  | some failure => (.error failure, world)
  | none => done

/-- A section under the store's lock. -/
def underLock {β : Type} (world : World) (oracle : Oracle) (result : β) (store : Store) :
    Except String β × World :=
  world.orFail oracle (.ok result, world.withStore store)

/-- The node answers a take. -/
def answerTake (world : World) (oracle : Oracle) (id : DisputeId) :
    Except String SolverDisputeInfo × World :=
  let own := fun initiator revisionAt =>
    DisputeEvent.mk id initiator .inProgress revisionAt world.published.length true
  match oracle.take with
  | .refused => (.error "take failed", world)
  | .lost initiator revisionAt =>
    if world.canPublish (own initiator revisionAt) then
      (.error "take failed: no answer", world.publish (own initiator revisionAt))
    else (.error "take failed", world)
  | .took initiator revisionAt info =>
    if world.canPublish (own initiator revisionAt) then
      (.ok info, world.publish (own initiator revisionAt))
    else (.error "take failed", world)

/-- The thread's opening of the session fails where nothing is recorded about it. -/
def stray (world : World) (thread : Nat) (id : SessionId) : World :=
  if world.openedBy[id]? = some thread then { world with strayed := world.strayed ++ [id] }
  else world

/-- The insertion of a session after a take, and its reading back. -/
def openSession (world : World) (thread : Nat) (oracle : Oracle) (id : DisputeId)
    (info : SolverDisputeInfo) (order : OrderEvent) (now : Int) : Except String Session × World :=
  let new := openingSession world.store world.clock id info order now
  match world.store.insertSession new with
  | .error failure => (.error failure, world)
  | .ok (false, _) => (.error "the dispute already has a live session", world)
  | .ok (true, store) =>
    let world :=
      { world with
        store := store
        openedBy := world.openedBy ++ [thread]
        insertedAt := world.insertedAt ++ [world.published.length] }
    match oracle.breaks with
    | some failure => (.error failure, world.stray thread new.sessionId)
    | none => (.ok new.row, world)

/-- The transaction of an opening that failed. -/
def abandon (world : World) (observers : List Nat) (dispute : DisputeId) (id : Option SessionId)
    (reason : String) (now : Int) : World :=
  { world with
    store := world.store.abandonOpening observers dispute id reason now
    claims := match id with
      | some id =>
        if (world.store.handOff id .openingFailed now).1 then world.claims ++ [(id, .abandon)]
        else world.claims
      | none => world.claims }

/-- Opening the channels of a session. -/
def openChat (world : World) (thread : Nat) (oracle : Oracle) (id : SessionId) :
    Except String Unit × World :=
  let opened := { world with openChats := world.openChats.filter (· != id) ++ [id] }
  match oracle.fails, oracle.breaks with
  | some failure, _ => (.error failure, world.stray thread id)
  | none, some failure => (.error failure, opened.stray thread id)
  | none, none => (.ok (), opened)

/-- The transaction at the end of an opening. -/
def activate (world : World) (observers : List Nat) (dispute : DisputeId) (id : SessionId)
    (now : Int) : World :=
  { world with
    store := (world.store.setState id .active now).queueForObservers observers dispute
      mediatingSubject now
    activated :=
      if (world.store.session id).any Session.isLive then world.activated ++ [id]
      else world.activated }

/-- A turn's task is over. -/
def turnOver (world : World) (thread : Nat) (again : Bool) : World :=
  match world.running.find? fun entry => entry.1 == thread with
  | none => world
  | some (_, id) =>
    let rest := world.running.filter fun entry => entry.1 != thread
    if again || world.dueAgain.contains id then
      { world with
        running := rest
        dueAgain := world.dueAgain.filter (· != id)
        deadlines := world.deadlines.filter (· != id) ++ [id] }
    else { world with running := rest }

/-- The check of the gate. -/
def checkGate (world : World) (thread : Nat) (rule : GateRule) (message : Passed) :
    Except String Unit × World :=
  if (world.store.session message.sessionId).any fun session => rule.allows session.state then
    (.ok (),
      { world with
        passed := world.passed ++ [message]
        sending := world.sending ++ [(thread, message)] })
  else (.error "the session has ended", world)

/-- The relay send: accepted, or given up. -/
def sendEvent (world : World) (thread : Nat) (oracle : Oracle) (message : Passed) :
    Except String Unit × World :=
  let world := { world with sending := world.sending.erase (thread, message) }
  match oracle.fails with
  | some failure => (.error failure, world)
  | none => (.ok (),
      { world with
        sent := world.sent ++ [message]
        recording := world.recording ++ [(thread, message)]
        holdNotices :=
          if message.template = .holdNotice then
            world.holdNotices ++ [(message.sessionId, message.party)]
          else world.holdNotices })

/-- Storing an outbound message ends its sending, whether it is stored or not. -/
def endSending (world : World) (thread : Nat) (new : NewMessage) : World :=
  { world with
    recording := world.recording.filter fun entry => entry.1 != thread ||
      new.templateId.all fun template => entry.2 != ⟨new.sessionId, new.party, template⟩ }

end World

/-- A call's result and the world after it. -/
def performCall (deployment : Deployment) {β : Type} (thread : Pool.Thread Task) (call : Call β)
    (oracle : Oracle) (world : World) : Except String β × World :=
  match call with
  | .read query => world.orFail oracle (.ok (query world.store), world.look thread.number)
  | .load id => world.orFail oracle (.ok (world.store.load id), world.look thread.number)
  | .now => (.ok world.clock, world)
  | .readyJudge => (.ok world.judgeReady, world)
  | .setReady => (.ok (), { world with judgeReady := true })
  | .claimTake id lifecycle hadSession =>
    let verdict := Candidate.check
      { enabled := deployment.settings.enabled
        ready := world.judgeReady
        lifecycle := lifecycle
        hadSession := hadSession
        taking := world.ownTakes.any fun entry => entry.1 == id }
    match verdict with
    | .ok () =>
      (.ok verdict, { world with ownTakes := world.ownTakes ++ [(id, thread.number)] })
    | .error _ => (.ok verdict, world)
  | .releaseTake id =>
    (.ok (), { world with ownTakes := world.ownTakes.filter fun entry => entry.1 != id })
  | .isTaking id => (.ok (world.ownTakes.any fun entry => entry.1 == id), world)
  | .takeDispute id => world.orFail oracle (world.answerTake oracle id)
  | .fetchOrder => (.ok oracle.order, world)
  | .insertSession id info order now =>
    world.orFail oracle (world.openSession thread.number oracle id info order now)
  | .openChat id => world.openChat thread.number oracle id
  | .closeChat id => (.ok (), { world with openChats := world.openChats.filter (· != id) })
  | .chatIsOpen id => (.ok (world.openChats.contains id), world)
  | .wrap => world.orFail oracle (.ok world.clock, world)
  | .gate rule message => world.orFail oracle (world.checkGate thread.number rule message)
  | .sendEvent message => world.sendEvent thread.number oracle message
  | .insertMessage new =>
    let world := world.endSending thread.number new
    world.orFail oracle <|
      match world.store.insertMessageIfNew new with
      | .error failure => (.error failure, world)
      | .ok (inserted, store) => (.ok inserted, world.withStore store)
  | .activate dispute id now =>
    match oracle.fails with
    | some failure => (.error failure, world.stray thread.number id)
    | none => (.ok (), world.activate deployment.observers dispute id now)
  | .abandon dispute id reason now =>
    match oracle.fails with
    | some failure => (.error failure, id.elim world (world.stray thread.number))
    | none => (.ok (), world.abandon deployment.observers dispute id reason now)
  | .append new => world.underLock oracle () (world.store.append new)
  | .handOff session reason now =>
    world.orFail oracle <|
      match world.store.claimHandOff deployment.observers session reason now with
      | none => (.ok none, world)
      | some (pending, store) =>
        (.ok (some pending),
          { world with
            store := store
            claims := world.claims ++
              [(session.sessionId, .handOff reason
                (Store.newestMessageId (world.store.listMessages session.sessionId)))] })
  | .startGuiding session path now =>
    world.orFail oracle <|
      match world.store.claimGuiding deployment.observers session path now with
      | none => (.ok none, world)
      | some (pending, store) => (.ok (some pending), world.withStore store)
  | .recordHold session now =>
    let cutoff := Store.newestMessageId (world.store.listMessages session.sessionId)
    let held := world.store.append
      ⟨session.disputeId, some session.sessionId, .held (some cutoff), now⟩
    world.orFail oracle (.ok cutoff,
      { world with
        store := held
        holdNotices := world.holdNotices.filter fun notice => notice.1 != session.sessionId })
  | .setLanguage id party lang now =>
    world.underLock oracle () (world.store.setLanguage id party lang now)
  | .countRound id party firstInTurn now =>
    world.underLock oracle () (world.store.countRound id party firstInTurn now)
  | .insertEvaluation new => world.underLock oracle () (world.store.insertEvaluation new)
  | .evaluate _ => world.orFail oracle (.ok oracle.answers, world)
  | .sendDm solver dispute notification =>
    world.orFail oracle (.ok (),
      { world with told := world.told ++ [⟨world.closings, solver, dispute, notification⟩] })
  | .lockFinishing =>
    (.ok (), { world with finishing := some thread.number, closings := world.closings + 1 })
  | .unlockFinishing => (.ok (), { world with finishing := none })
  | .record dispute now =>
    let (change, store) := world.store.record dispute now
    world.orFail oracle
      (.ok change,
        { world with
          store := store
          recorded :=
            if change = .unchanged then world.recorded else world.recorded ++ [dispute] })
  | .markNotified id now => world.underLock oracle () (world.store.markNotified id now)
  | .spawn task => (.ok (), { world with spawned := world.spawned ++ [task] })
  | .joinTurn again => (.ok (), world.turnOver thread.number again)
  | .joinTick => (.ok (), { world with ticking := none })

/-- A call waits only for the lock of closings. -/
def callEnabled {β : Type} (call : Call β) (world : World) : Bool :=
  match call with
  | .lockFinishing => world.finishing.isNone
  | _ => true

/-! ## What happens besides the calls -/

/-- A validated inbound chat event. -/
structure Inbound where
  sessionId : SessionId
  party : Party
  /-- The text, or a marker for an attachment. -/
  content : String
  attachments : Nat
  innerEventId : Nat
  createdAt : Int
  /-- The cursor could not be advanced, after the message was stored. -/
  cursorFails : Bool
  deriving DecidableEq, Repr

/-- What happens outside the tasks. -/
inductive Happening
  | clock (now : Int)
  | publish (dispute : DisputeEvent)
  /-- A relay delivers a party message. -/
  | receive (inbound : Inbound)
  /-- The turn loop receives an announced session. -/
  | touch
  /-- The turn loop finds a session due while its turn runs. -/
  | dueAgain (id : SessionId)
  deriving DecidableEq, Repr

namespace World

/-- Validates and stores one inbound message, and announces its session. -/
def receive (world : World) (deployment : Deployment) (inbound : Inbound) : Option World :=
  if !world.openChats.contains inbound.sessionId then none
  else if !(world.store.session inbound.sessionId).any Session.isLive then
    -- A session that ended gets nothing more: its channels are forgotten.
    some { world with openChats := world.openChats.filter (· != inbound.sessionId) }
  else
    match world.store.insertMessageIfNew
      { sessionId := inbound.sessionId
        direction := .inbound
        party := inbound.party
        templateId := none
        lang := none
        content := truncate inbound.content deployment.settings.maxMessageChars
        attachments := inbound.attachments
        innerEventId := .party inbound.innerEventId
        createdAt := inbound.createdAt } with
    | .error _ => none
    | .ok (false, _) => none
    | .ok (true, store) =>
      some { world with
        store := store
        announced :=
          if inbound.cursorFails then world.announced
          else world.announced ++ [inbound.sessionId] }

end World

/-- The world after something outside the tasks, if it can happen. -/
def happen (deployment : Deployment) (happening : Happening) (world : World) : Option World :=
  match happening with
  | .clock now => some { world with clock := now }
  | .publish dispute =>
    if !dispute.own && world.canPublish dispute then some (world.publish dispute) else none
  | .receive inbound => world.receive deployment inbound
  | .touch =>
    match world.announced with
    | [] => none
    | id :: rest =>
      some { world with
        announced := rest
        deadlines := world.deadlines.filter (· != id) ++ [id] }
  | .dueAgain id =>
    if world.deadlines.contains id && world.running.any fun entry => entry.2 == id then
      some { world with
        deadlines := world.deadlines.filter (· != id)
        dueAgain := world.dueAgain.filter (· != id) ++ [id] }
    else none

/-- The world once a task starts. A relay delivers any published revision, any number of times. -/
def launch (thread : Pool.Thread Task) (world : World) : Option World :=
  match thread.role with
  | .turn id =>
    if world.deadlines.contains id && !world.running.any fun entry => entry.2 == id then
      some { world with
        deadlines := world.deadlines.filter (· != id)
        running := world.running ++ [(thread.number, id)] }
    else none
  | .tick =>
    if world.ticking.isNone then some { world with ticking := some thread.number } else none
  | .handleEvent dispute => if world.published.contains dispute then some world else none
  | .consider _ | .finish _ _ _ =>
    if world.spawned.contains thread.role then
      some { world with spawned := world.spawned.erase thread.role }
    else none
  | _ => some world

/-- A process that starts again: the store stays, what was in memory is gone, and the turns of
pending sessions are scheduled. -/
def restart (oracle : Oracle) (world : World) : World :=
  { world with
    ownTakes := []
    judgeReady := false
    openChats := []
    announced := []
    deadlines :=
      if oracle.fails.isSome then [] else world.store.pendingSessions oracle.unreadable
    dueAgain := []
    running := []
    finishing := none
    ticking := none
    spawned := []
    strayed := world.strayed ++
      (world.store.sessions.filter fun row => row.state == .opening).map Session.sessionId
    sending := []
    recording := [] }

end Serbero
