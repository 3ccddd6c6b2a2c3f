import Serbero.Store.Tables

/-! # How the rows of the store evolve

What may become of a session's row, and which functions of the store leave which tables alone. The
events that a claim of a session or the start of a hold writes, and the resolutions of disputes, are
marks; every other event only tells what happened besides. -/

namespace Serbero

/-! ## Sessions -/

/-- The dispute of a session. -/
def Store.disputeOf (store : Store) (id : SessionId) : Option DisputeId :=
  (store.session id).map Session.disputeId

/-- What may become of a session's row: it stays the same session, moves forward, does not change
once it ended, and keeps the reason of its hand-off. -/
structure Session.Becomes (before after : Session) : Prop where
  sessionId : after.sessionId = before.sessionId
  disputeId : after.disputeId = before.disputeId
  openedAt : after.openedAt = before.openedAt
  stage : before.state.stage ≤ after.state.stage
  ended : before.state.isTerminal = true →
    after.state = before.state ∧ after.handoffReason = before.handoffReason
  reason : ∀ reason, before.handoffReason = some reason → after.handoffReason = some reason

namespace Session.Becomes

variable {a b c : Session}

/-- A row becomes itself. -/
theorem refl (session : Session) : session.Becomes session :=
  ⟨rfl, rfl, rfl, le_rfl, fun _ => ⟨rfl, rfl⟩, fun _ h => h⟩

/-- What a row becomes in two moves it becomes in one. -/
theorem trans (h : a.Becomes b) (h' : b.Becomes c) : a.Becomes c where
  sessionId := h'.sessionId.trans h.sessionId
  disputeId := h'.disputeId.trans h.disputeId
  openedAt := h'.openedAt.trans h.openedAt
  stage := h.stage.trans h'.stage
  ended hterminal := by
    obtain ⟨hstate, hreason⟩ := h.ended hterminal
    have later := h'.ended (by rw [hstate]; exact hterminal)
    exact ⟨later.1.trans hstate, later.2.trans hreason⟩
  reason reason hreason := h'.reason reason (h.reason reason hreason)

/-- A session that is live was live before. -/
theorem isLive_of_isLive (h : a.Becomes b) (hlive : b.isLive = true) : a.isLive = true := by
  by_contra hended
  have hterminal : a.state.isTerminal = true := by simpa [Session.isLive] using hended
  have hstate := (h.ended hterminal).1
  rw [Session.isLive, hstate, hterminal] at hlive
  exact absurd hlive (by decide)

/-- A session that is opening was opening before. -/
theorem opening_of_opening (h : a.Becomes b) (hopening : b.state = .opening) :
    a.state = .opening := by
  have hstage := h.stage
  rw [hopening] at hstage
  cases hstate : a.state <;> rw [hstate] at hstage <;> first | rfl | exact absurd hstage (by decide)

end Session.Becomes

/-- A state is terminal at the last stage only. -/
theorem SessionState.isTerminal_iff_stage (state : SessionState) :
    state.isTerminal = true ↔ state.stage = 4 := by
  cases state <;> decide

/-- Serbero mediates at the first three stages. -/
theorem SessionState.isMediating_iff_stage (state : SessionState) :
    state.isMediating = true ↔ state.stage < 3 := by
  cases state <;> decide

/-! ## Marks -/

/-- The events that the claim of a session writes, the start of a hold, and a resolution. -/
def EventKind.isMark : EventKind → Bool
  | .handoff _ _ | .guided _ | .held _ | .briefPending _ => true
  | .mediationFailed _ | .openingNoticePending => true
  | .resolved _ _ _ => true
  | _ => false

/-- A hand-off with its cutoff. -/
def EventKind.isHandoff : EventKind → Bool
  | .handoff _ _ => true
  | _ => false

/-- A pending brief of a hand-off. -/
def EventKind.isHandoffBrief : EventKind → Bool
  | .briefPending (.handoff _) => true
  | _ => false

/-- The start of a guidance. -/
def EventKind.isGuided : EventKind → Bool
  | .guided _ => true
  | _ => false

/-- How many of these events are a session's, of a kind. -/
def countMarks (marks : List Event) (id : SessionId) (kind : EventKind → Bool) : Nat :=
  marks.countP fun event => event.sessionId == some id && kind event.kind

/-- The marks of two logs are counted one after the other. -/
theorem countMarks_append (marks more : List Event) (id : SessionId) (kind : EventKind → Bool) :
    countMarks (marks ++ more) id kind = countMarks marks id kind + countMarks more id kind :=
  List.countP_append

/-- Another session's events do not count. -/
theorem countMarks_eq_zero {marks : List Event} {id : SessionId} {kind : EventKind → Bool}
    (h : ∀ event ∈ marks, event.sessionId = some id → kind event.kind = false) :
    countMarks marks id kind = 0 := by
  rw [countMarks, List.countP_eq_zero]
  intro event hevent hcounted
  rw [Bool.and_eq_true, beq_iff_eq] at hcounted
  rw [h event hevent hcounted.1] at hcounted
  exact absurd hcounted.2 (by decide)

namespace Store

variable (store : Store)

/-- The marks, oldest first. -/
def marks : List Event := store.events.filter fun event => event.kind.isMark

/-- The event a new event is appended as. -/
def eventRow (new : NewEvent) : Event :=
  { id := store.events.length + 1
    disputeId := new.disputeId
    sessionId := new.sessionId
    kind := new.kind
    createdAt := new.now }

/-- An event more leaves the sessions. -/
@[simp] theorem append_sessions (new : NewEvent) : (store.append new).sessions = store.sessions :=
  rfl

/-- It leaves the disputes. -/
@[simp] theorem append_disputes (new : NewEvent) : (store.append new).disputes = store.disputes :=
  rfl

/-- It leaves the messages. -/
@[simp] theorem append_messages (new : NewEvent) : (store.append new).messages = store.messages :=
  rfl

/-- It is the last event. -/
theorem append_events (new : NewEvent) :
    (store.append new).events = store.events ++ [store.eventRow new] := rfl

/-- Appending a mark. -/
theorem append_marks_of_mark {new : NewEvent} (h : new.kind.isMark = true) :
    (store.append new).marks = store.marks ++ [store.eventRow new] := by
  rw [marks, append_events, List.filter_append]
  simp [marks, eventRow, h]

/-- Appending two marks. -/
theorem append_append_marks {new new' : NewEvent} (h : new.kind.isMark = true)
    (h' : new'.kind.isMark = true) :
    ((store.append new).append new').marks =
      store.marks ++ [store.eventRow new, (store.append new).eventRow new'] := by
  rw [append_marks_of_mark _ h', append_marks_of_mark _ h, List.append_assoc]
  rfl

/-- Appending any other event leaves the marks alone. -/
theorem append_marks {new : NewEvent} (h : new.kind.isMark = false) :
    (store.append new).marks = store.marks := by
  rw [marks, append_events, List.filter_append]
  simp [marks, eventRow, h]

/-- Queueing a notice appends it, or it was queued. -/
theorem queueForObserver_cases (id : DisputeId) (subject : String) (now : Int) (observer : Nat) :
    store.queueForObserver id subject now observer = store ∨
      store.queueForObserver id subject now observer =
        store.append ⟨id, none, .observerPending observer subject, now⟩ := by
  unfold queueForObserver
  simp only []
  split
  · exact Or.inl rfl
  · exact Or.inr rfl

/-- Queueing notices for the observers only appends events that are no marks. -/
theorem queueForObservers_spec (observers : List Nat) (id : DisputeId) (subject : String)
    (now : Int) :
    (store.queueForObservers observers id subject now).sessions = store.sessions ∧
      (store.queueForObservers observers id subject now).disputes = store.disputes ∧
      (store.queueForObservers observers id subject now).messages = store.messages ∧
      (store.queueForObservers observers id subject now).evaluations = store.evaluations ∧
      store.events <+: (store.queueForObservers observers id subject now).events ∧
      (store.queueForObservers observers id subject now).marks = store.marks := by
  induction observers generalizing store with
  | nil => exact ⟨rfl, rfl, rfl, rfl, List.prefix_rfl, rfl⟩
  | cons observer rest ih =>
    have later := ih (store.queueForObserver id subject now observer)
    rw [queueForObservers, List.foldl_cons, ← queueForObservers]
    rcases store.queueForObserver_cases id subject now observer with hsame | hqueued
    · rw [hsame] at later ⊢
      exact later
    · rw [hqueued] at later ⊢
      refine ⟨later.1, later.2.1, later.2.2.1, later.2.2.2.1, ?_, ?_⟩
      · exact (List.prefix_append _ _).trans later.2.2.2.2.1
      · exact later.2.2.2.2.2.trans (append_marks _ rfl)

/-- Notices to the observers leave the sessions. -/
@[simp] theorem queueForObservers_sessions (observers : List Nat) (id : DisputeId)
    (subject : String) (now : Int) :
    (store.queueForObservers observers id subject now).sessions = store.sessions :=
  (store.queueForObservers_spec observers id subject now).1

/-- They leave the disputes. -/
@[simp] theorem queueForObservers_disputes (observers : List Nat) (id : DisputeId)
    (subject : String) (now : Int) :
    (store.queueForObservers observers id subject now).disputes = store.disputes :=
  (store.queueForObservers_spec observers id subject now).2.1

/-- They leave the messages. -/
@[simp] theorem queueForObservers_messages (observers : List Nat) (id : DisputeId)
    (subject : String) (now : Int) :
    (store.queueForObservers observers id subject now).messages = store.messages :=
  (store.queueForObservers_spec observers id subject now).2.2.1

/-- They leave the evaluations. -/
@[simp] theorem queueForObservers_evaluations (observers : List Nat) (id : DisputeId)
    (subject : String) (now : Int) :
    (store.queueForObservers observers id subject now).evaluations = store.evaluations :=
  (store.queueForObservers_spec observers id subject now).2.2.2.1

/-- They are no marks. -/
@[simp] theorem queueForObservers_marks (observers : List Nat) (id : DisputeId)
    (subject : String) (now : Int) :
    (store.queueForObservers observers id subject now).marks = store.marks :=
  (store.queueForObservers_spec observers id subject now).2.2.2.2.2

/-! ## Updates of sessions -/

/-- An update of sessions leaves the disputes. -/
@[simp] theorem updateSessions_disputes (picked : Session → Bool) (change : Session → Session) :
    (store.updateSessions picked change).disputes = store.disputes := rfl

/-- It leaves the messages. -/
@[simp] theorem updateSessions_messages (picked : Session → Bool) (change : Session → Session) :
    (store.updateSessions picked change).messages = store.messages := rfl

/-- It leaves the marks. -/
@[simp] theorem updateSessions_marks (picked : Session → Bool) (change : Session → Session) :
    (store.updateSessions picked change).marks = store.marks := rfl

/-- An update moves every row forward when it moves the rows it picks forward. -/
theorem updateSessions_becomes {picked : Session → Bool} {change : Session → Session}
    (h : ∀ row ∈ store.sessions, picked row = true → row.Becomes (change row)) :
    List.Forall₂ Session.Becomes store.sessions (store.updateSessions picked change).sessions := by
  rw [updateSessions, List.forall₂_map_right_iff, List.forall₂_same]
  intro row hrow
  split
  · next hpicked => exact h row hrow hpicked
  · exact .refl row

/-- A row of an updated table. -/
theorem mem_updateSessions {picked : Session → Bool} {change : Session → Session} {row : Session}
    (h : row ∈ (store.updateSessions picked change).sessions) :
    (∃ before ∈ store.sessions, picked before = true ∧ row = change before) ∨
      (row ∈ store.sessions ∧ picked row = false) := by
  obtain ⟨before, hbefore, rfl⟩ := List.mem_map.mp h
  by_cases hpicked : picked before = true
  · rw [if_pos hpicked]
    exact Or.inl ⟨before, hbefore, hpicked, rfl⟩
  · rw [if_neg hpicked]
    exact Or.inr ⟨hbefore, by simpa using hpicked⟩

/-! ## Updates of disputes -/

/-- An update of disputes leaves the sessions. -/
@[simp] theorem updateDisputes_sessions (picked : Dispute → Bool) (change : Dispute → Dispute) :
    (store.updateDisputes picked change).sessions = store.sessions := rfl

/-- It leaves the messages. -/
@[simp] theorem updateDisputes_messages (picked : Dispute → Bool) (change : Dispute → Dispute) :
    (store.updateDisputes picked change).messages = store.messages := rfl

/-- It leaves the marks. -/
@[simp] theorem updateDisputes_marks (picked : Dispute → Bool) (change : Dispute → Dispute) :
    (store.updateDisputes picked change).marks = store.marks := rfl

/-- The stored dispute after an update that keeps ids. -/
theorem dispute_updateDisputes {picked : Dispute → Bool} {change : Dispute → Dispute}
    (hid : ∀ row, (change row).disputeId = row.disputeId) (id : DisputeId) :
    (store.updateDisputes picked change).dispute id =
      (store.dispute id).map fun row => if picked row then change row else row := by
  have same : ∀ row, (if picked row then change row else row).disputeId = row.disputeId := by
    intro row
    split
    · exact hid row
    · rfl
  rw [dispute, updateDisputes, List.find?_map]
  simp only [Function.comp_def, same]
  rfl

/-- The stored dispute after an update of its own row. -/
theorem dispute_updateDisputes_self {change : Dispute → Dispute}
    (hid : ∀ row, (change row).disputeId = row.disputeId) (id : DisputeId) :
    (store.updateDisputes (fun row => row.disputeId == id) change).dispute id =
      (store.dispute id).map change := by
  rw [dispute_updateDisputes store hid]
  cases h : store.dispute id with
  | none => rfl
  | some row =>
    have hrow := List.find?_some h
    rw [Option.map_some, Option.map_some, if_pos hrow]

/-- Setting the life cycle changes nothing else of the row that is read. -/
theorem dispute_setLifecycle (id : DisputeId) (lifecycle : Lifecycle) (now : Int) :
    (store.setLifecycle id lifecycle now).dispute id =
      (store.dispute id).map fun row => { row with lifecycle := lifecycle, updatedAt := now } := by
  apply dispute_updateDisputes_self
  intro row
  rfl

end Store

end Serbero
