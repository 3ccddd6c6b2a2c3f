import Serbero.Store.Messages

/-! # The tables of the store

Rows are never deleted and ids count from 1, so a table is the list of its rows in the order of
their ids, and the id a new row gets is the length of the table after it. Each function is one SQL
statement of the source, or the few statements of one of its helpers. -/

namespace Serbero

/-- The SQLite store. -/
structure Store where
  disputes : List Dispute
  sessions : List Session
  messages : List Message
  events : List Event
  evaluations : List Evaluation

/-- A dispute as first observed in a dispute event. -/
structure NewDispute where
  disputeId : DisputeId
  initiator : Initiator
  status : DisputeStatus
  statusAt : Int
  now : Int
  deriving DecidableEq, Repr

/-- The result of applying a dispute event revision. -/
inductive StatusUpdate
  | applied
  /-- The stored revision is as new or newer. -/
  | stale
  | notFound
  deriving DecidableEq, Repr

/-- An event to be recorded. -/
structure NewEvent where
  disputeId : DisputeId
  sessionId : Option SessionId
  kind : EventKind
  now : Int
  deriving DecidableEq, Repr

/-- A mediated dispute that reached its final status. -/
structure Resolution where
  disputeId : DisputeId
  status : DisputeStatus
  byParties : Bool
  deriving DecidableEq, Repr

/-- An evaluation to be recorded. -/
structure NewEvaluation where
  sessionId : SessionId
  questionSetVersion : String
  lastMessageId : Int
  answers : Answers
  action : Action
  now : Int

/-- Opening, active, guiding and handed-off sessions are live. -/
def Session.isLive (session : Session) : Bool := !session.state.isTerminal

namespace Store

variable (store : Store)

/-- The store of a fresh database. -/
def empty : Store := ⟨[], [], [], [], []⟩

/-! ## Disputes -/

/-- The stored dispute. -/
def dispute (id : DisputeId) : Option Dispute :=
  store.disputes.find? fun row => row.disputeId == id

/-- Updates the rows a condition picks. -/
def updateDisputes (picked : Dispute → Bool) (change : Dispute → Dispute) : Store :=
  { store with disputes := store.disputes.map fun row => if picked row then change row else row }

/-- Inserts a dispute in life cycle `new` unless it already exists. -/
def insertDisputeIfNew (new : NewDispute) : Store :=
  if (store.dispute new.disputeId).isSome then store
  else
    { store with
      disputes := store.disputes ++
        [{ disputeId := new.disputeId
           initiator := new.initiator
           status := new.status
           statusAt := new.statusAt
           lifecycle := .new
           firstSeenAt := new.now
           lastNotifiedAt := none
           updatedAt := new.now }] }

/-- Records a dispute event revision if it is newer than the stored one. -/
def applyStatus (id : DisputeId) (status : DisputeStatus) (statusAt now : Int) :
    StatusUpdate × Store :=
  match store.dispute id with
  | none => (.notFound, store)
  | some stored =>
    if stored.statusAt < statusAt then
      (.applied, store.updateDisputes (fun row => row.disputeId == id) fun row =>
        { row with status := status, statusAt := statusAt, updatedAt := now })
    else (.stale, store)

/-- Sets the life cycle. -/
def setLifecycle (id : DisputeId) (lifecycle : Lifecycle) (now : Int) : Store :=
  store.updateDisputes (fun row => row.disputeId == id) fun row =>
    { row with lifecycle := lifecycle, updatedAt := now }

/-- Moves a dispute waiting for a solver to `notified` and stamps the notification time. -/
def markNotified (id : DisputeId) (now : Int) : Store :=
  store.updateDisputes
    (fun row => row.disputeId == id && (row.lifecycle == .new || row.lifecycle == .notified))
    fun row => { row with lifecycle := .notified, lastNotifiedAt := some now, updatedAt := now }

/-- Notified disputes first seen since `since` that never had a session, oldest first. -/
def listNotifiedWithoutSession (since : Int) : List Dispute :=
  (store.disputes.filter fun row =>
    row.lifecycle == .notified && decide (since ≤ row.firstSeenAt) &&
      !store.sessions.any (·.disputeId == row.disputeId)).insertionSort
    fun a b => a.firstSeenAt ≤ b.firstSeenAt

/-- Disputes waiting for a solver whose last notification is at or before `cutoff`. -/
def listAwaitingSolver (cutoff : Int) : List Dispute :=
  (store.disputes.filter fun row =>
    (row.lifecycle == .new || row.lifecycle == .notified) &&
      decide (row.lastNotifiedAt.getD row.firstSeenAt ≤ cutoff)).insertionSort
    fun a b => a.firstSeenAt ≤ b.firstSeenAt

/-! ## Sessions -/

/-- The stored session. -/
def session (id : SessionId) : Option Session :=
  store.sessions.find? fun row => row.sessionId == id

/-- The live session of a dispute, if any. -/
def liveForDispute (id : DisputeId) : Option Session :=
  store.sessions.find? fun row => row.disputeId == id && row.isLive

/-- Every live session, oldest first. -/
def listLive : List Session :=
  (store.sessions.filter Session.isLive).insertionSort fun a b =>
    toLex (a.openedAt, a.sessionId) ≤ toLex (b.openedAt, b.sessionId)

/-- The dispute's most recent session, live or ended. -/
def latestForDispute (id : DisputeId) : Option Session :=
  ((store.sessions.filter (·.disputeId == id)).insertionSort
    fun a b => a.openedAt ≤ b.openedAt).getLast?

/-- Whether the dispute ever had a session. -/
def existsForDispute (id : DisputeId) : Bool := store.sessions.any (·.disputeId == id)

/-- Updates the rows a condition picks. -/
def updateSessions (picked : Session → Bool) (change : Session → Session) : Store :=
  { store with sessions := store.sessions.map fun row => if picked row then change row else row }

/-- Inserts a session in state `opening`; `false` when the dispute already has a live session. A
session of an unknown dispute is refused. -/
def insertSession (new : NewSession) : Except String (Bool × Store) :=
  if (store.dispute new.disputeId).isNone then .error "FOREIGN KEY constraint failed"
  else if (store.liveForDispute new.disputeId).isSome then .ok (false, store)
  else .ok (true, { store with sessions := store.sessions ++ [new.row] })

/-- Records the language a party is addressed in. -/
def setLanguage (id : SessionId) (party : Party) (lang : String) (now : Int) : Store :=
  store.updateSessions (·.sessionId == id) fun row =>
    match party with
    | .buyer => { row with buyerLang := some lang, updatedAt := now }
    | .seller => { row with sellerLang := some lang, updatedAt := now }

/-- Counts a question round for a party; the turn's first one counts for the session too. -/
def countRound (id : SessionId) (party : Party) (firstInTurn : Bool) (now : Int) : Store :=
  store.updateSessions (·.sessionId == id) fun row =>
    { row with
      rounds := row.rounds + (if firstInTurn then 1 else 0)
      buyerRounds := row.buyerRounds + (if party = .buyer then 1 else 0)
      sellerRounds := row.sellerRounds + (if party = .seller then 1 else 0)
      updatedAt := now }

/-- Claims a session for a hand-off: only while it is still opening, active or guiding. -/
def handOff (id : SessionId) (reason : HandoffReason) (now : Int) : Bool × Store :=
  let mediating := fun row : Session => row.sessionId == id && row.state.isMediating
  (store.sessions.any mediating, store.updateSessions mediating fun row =>
    { row with state := .handedOff, handoffReason := some reason, updatedAt := now })

/-- Moves a live session to `state`. A terminal session is never changed. -/
def setState (id : SessionId) (state : SessionState) (now : Int) : Store :=
  store.updateSessions (fun row => row.sessionId == id && row.isLive) fun row =>
    { row with state := state, updatedAt := now }

/-- Moves an active session to `guiding`; `false` when it is no longer active. -/
def startGuiding (id : SessionId) (now : Int) : Bool × Store :=
  let active := fun row : Session => row.sessionId == id && row.state == .active
  (store.sessions.any active, store.updateSessions active fun row =>
    { row with state := .guiding, updatedAt := now })

/-! ## Messages -/

/-- A session's transcript in conversation order. -/
def listMessages (id : SessionId) : List Message :=
  conversationOrder (store.messages.filter (·.sessionId == id))

/-- The newest stored message of a session, or 0. -/
def newestMessageId (messages : List Message) : Int := (messages.map Message.id).max?.getD 0

/-- Stores a message unless its inner event id is already stored for the session, direction and
party. A message of an unknown session is refused. -/
def insertMessageIfNew (new : NewMessage) : Except String (Bool × Store) :=
  if (store.session new.sessionId).isNone then .error "FOREIGN KEY constraint failed"
  else if store.messages.any fun row =>
      row.sessionId == new.sessionId && row.direction == new.direction &&
        row.party == new.party && row.innerEventId == new.innerEventId then .ok (false, store)
  else .ok (true, { store with messages := store.messages ++ [new.row (store.messages.length + 1)] })

/-- A message that is not refused is of a known session: it was stored before, or it is now. -/
theorem insertMessageIfNew_eq_ok {store later : Store} {new : NewMessage} {inserted : Bool}
    (h : store.insertMessageIfNew new = .ok (inserted, later)) :
    (store.session new.sessionId).isSome = true ∧
      ((inserted = false ∧ later = store ∧ ∃ row ∈ store.messages, row.sessionId = new.sessionId ∧
        row.direction = new.direction ∧ row.party = new.party ∧
          row.innerEventId = new.innerEventId) ∨
      (inserted = true ∧ later =
        { store with messages := store.messages ++ [new.row (store.messages.length + 1)] })) := by
  unfold insertMessageIfNew at h
  split at h
  · cases h
  · next hsession =>
    have hsome : (store.session new.sessionId).isSome = true := by
      cases hfound : store.session new.sessionId with
      | none => exact absurd (by rw [hfound]; rfl) hsession
      | some _ => rfl
    refine ⟨hsome, ?_⟩
    split at h
    · next hany =>
      cases h
      obtain ⟨row, hrow, hsame⟩ := List.any_eq_true.mp hany
      simp only [Bool.and_eq_true, beq_iff_eq] at hsame
      exact Or.inl ⟨rfl, rfl, row, hrow, hsame.1.1.1, hsame.1.1.2, hsame.1.2, hsame.2⟩
    · cases h
      exact Or.inr ⟨rfl, rfl⟩

/-! ## Events -/

/-- Appends an event. -/
def append (new : NewEvent) : Store :=
  { store with
    events := store.events ++
      [{ id := store.events.length + 1
         disputeId := new.disputeId
         sessionId := new.sessionId
         kind := new.kind
         createdAt := new.now }] }

/-- The id of the newest event. -/
def newestEventId : Int := store.events.length

/-- Events for one dispute, oldest first. -/
def listEvents (id : DisputeId) : List Event := store.events.filter (·.disputeId == id)

/-- Queues a notice for an observer that does not have it queued yet. -/
def queueForObserver (id : DisputeId) (subject : String) (now : Int) (observer : Nat) : Store :=
  let kind := EventKind.observerPending observer subject
  if store.events.any fun event => event.disputeId == id && event.kind == kind then store
  else store.append ⟨id, none, kind, now⟩

/-- Queues a notice for every observer that does not have it queued yet. -/
def queueForObservers (observers : List Nat) (id : DisputeId) (subject : String) (now : Int) :
    Store :=
  observers.foldl (fun store observer => store.queueForObserver id subject now observer) store

/-- Disputes with a `pending` event since `since` that no later `done` event closed, oldest first. -/
def stillPending (pending done : EventKind) (since : Int) : List DisputeId :=
  ((store.events.filter fun event => event.kind == pending && decide (since ≤ event.createdAt) &&
    !store.events.any fun closing =>
      closing.disputeId == event.disputeId && closing.kind == done &&
        decide (closing.id > event.id)).map Event.disputeId).eraseDups

/-- The resolution a `resolved` event recorded. -/
def resolution (event : Event) : Option Resolution :=
  match event.kind with
  | .resolved status byParties _ => some ⟨event.disputeId, status, byParties⟩
  | _ => none

/-- A `finished` event. -/
def isFinished (event : Event) : Bool :=
  match event.kind with
  | .finished _ => true
  | _ => false

/-- Mediated disputes resolved since `since` whose closing was not completed, oldest first. -/
def unfinishedResolutions (since : Int) : List Resolution :=
  (store.events.filter fun event => decide (since ≤ event.createdAt) &&
    store.existsForDispute event.disputeId &&
      !store.events.any fun other => other.disputeId == event.disputeId && isFinished other)
    |>.filterMap resolution

/-! ## Evaluations -/

/-- Appends an evaluation. -/
def insertEvaluation (new : NewEvaluation) : Store :=
  { store with
    evaluations := store.evaluations ++
      [{ id := store.evaluations.length + 1
         sessionId := new.sessionId
         questionSetVersion := new.questionSetVersion
         lastMessageId := new.lastMessageId
         answers := new.answers
         action := new.action
         createdAt := new.now }] }

/-- A session's evaluations, oldest first. -/
def listEvaluations (id : SessionId) : List Evaluation :=
  store.evaluations.filter (·.sessionId == id)

end Store

end Serbero
