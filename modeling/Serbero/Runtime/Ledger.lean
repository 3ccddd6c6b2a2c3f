import Serbero.Runtime.Traces

/-! # What each call writes

The messages, events and deliveries a call leaves behind, and that it leaves everything else of them
alone, whoever makes it. -/

namespace Serbero

open Pool

/-! ## Events -/

/-- The later store has more events, all of these kinds. -/
def Store.Logs (kinds : EventKind → Bool) (before after : Store) : Prop :=
  ∃ more, after.events = before.events ++ more ∧ ∀ event ∈ more, kinds event.kind = true

namespace Store.Logs

variable {kinds kinds' : EventKind → Bool} {a b c : Store}

/-- Unchanged events are logged. -/
theorem of_eq (h : b.events = a.events) : Store.Logs kinds a b :=
  ⟨[], by rw [h, List.append_nil], fun _ hevent => absurd hevent List.not_mem_nil⟩

/-- Nothing is logged. -/
theorem refl (store : Store) : Store.Logs kinds store store := of_eq rfl

/-- One log after another. -/
theorem trans (h : Store.Logs kinds a b) (h' : Store.Logs kinds b c) : Store.Logs kinds a c := by
  obtain ⟨more, heq, hmore⟩ := h
  obtain ⟨more', heq', hmore'⟩ := h'
  refine ⟨more ++ more', by rw [heq', heq, List.append_assoc], fun event hevent => ?_⟩
  rcases List.mem_append.mp hevent with hold | hnew
  · exact hmore event hold
  · exact hmore' event hnew

/-- More kinds may be logged. -/
theorem mono (h : Store.Logs kinds a b) (hkinds : ∀ kind, kinds kind = true → kinds' kind = true) :
    Store.Logs kinds' a b := by
  obtain ⟨more, heq, hmore⟩ := h
  exact ⟨more, heq, fun event hevent => hkinds _ (hmore event hevent)⟩

/-- Events stay. -/
theorem events (h : Store.Logs kinds a b) : a.events <+: b.events := by
  obtain ⟨more, heq, -⟩ := h
  exact ⟨more, heq.symm⟩

/-- Appending one event of such a kind. -/
theorem append {new : NewEvent} (h : kinds new.kind = true) (store : Store) :
    Store.Logs kinds store (store.append new) := by
  refine ⟨_, rfl, fun event hevent => ?_⟩
  rw [List.mem_singleton.mp hevent]
  exact h

/-- What is picked among the events stays, when nothing of its kind is logged. -/
theorem filter_eq (h : Store.Logs kinds a b) {picked : Event → Bool}
    (hpicked : ∀ event, kinds event.kind = true → picked event = false) :
    b.events.filter picked = a.events.filter picked := by
  obtain ⟨more, heq, hmore⟩ := h
  have hnone : more.filter picked = [] := by
    refine List.filter_eq_nil_iff.mpr fun event hevent hholds => ?_
    rw [hpicked event (hmore event hevent)] at hholds
    cases hholds
  rw [heq, List.filter_append, hnone, List.append_nil]

end Store.Logs

/-- A notice queued for an observer. -/
def EventKind.isQueued : EventKind → Bool
  | .observerPending _ _ => true
  | _ => false

/-- Notices to the observers are logged as queued. -/
theorem Store.Logs.queueForObservers {kinds : EventKind → Bool}
    (h : ∀ kind, kind.isQueued = true → kinds kind = true) (store : Store) (observers : List Nat)
    (id : DisputeId) (subject : String) (now : Int) :
    Store.Logs kinds store (store.queueForObservers observers id subject now) := by
  induction observers generalizing store with
  | nil => exact .refl store
  | cons observer rest ih =>
    refine .trans ?_ (ih (store.queueForObserver id subject now observer))
    unfold Store.queueForObserver
    simp only []
    split
    · exact .refl store
    · exact .append (h _ rfl) store

/-- The kinds of events a call may append. -/
def Call.logs {β : Type} : Call β → EventKind → Bool
  | .append new, kind => kind == new.kind
  | .activate _ _ _, kind => kind.isQueued
  | .abandon _ _ _ _, kind =>
    match kind with
    | .mediationFailed _ | .openingNoticePending => true
    | kind => kind.isQueued
  | .handOff _ _ _, kind =>
    match kind with
    | .handoff _ _ | .briefPending _ => true
    | kind => kind.isQueued
  | .startGuiding _ _ _, kind =>
    match kind with
    | .guided _ | .briefPending _ => true
    | kind => kind.isQueued
  | .recordHold _ _, kind =>
    match kind with
    | .held _ => true
    | _ => false
  | .record _ _, kind =>
    match kind with
    | .detected _ _ | .statusChanged _ _ | .resolved _ _ _ => true
    | .sessionSuperseded _ | .sessionClosed _ => true
    | _ => false
  | _, _ => false

/-- The kinds a revision logs. -/
theorem Store.logs_record (store : Store) (dispute : DisputeEvent) (now : Int) :
    Store.Logs ((Call.record dispute now).logs) store (store.record dispute now).2 := by
  have hlogged : ∀ kind : EventKind, kind.isRevision = true →
      (Call.record dispute now).logs kind = true := by
    intro kind hkind
    cases kind <;> first | rfl | cases hkind
  refine Store.record_steps .refl .trans (fun before new => .of_eq ?_) (fun before id state now =>
    .of_eq rfl) (fun before id lifecycle now => .of_eq rfl) (fun before new hkind =>
      .append (hlogged new.kind hkind) before) (.of_eq ?_)
  · unfold Store.applyStatus
    repeat' split
    all_goals rfl
  · unfold Store.insertDisputeIfNew
    split <;> rfl

variable {deployment : Deployment} {thread : Thread Task}

/-- A call appends events of its kinds only. -/
theorem performCall_logs (deployment : Deployment) {β : Type} (thread : Thread Task)
    (call : Call β) (oracle : Oracle) (world : World) :
    Store.Logs call.logs world.store
      (performCall deployment thread call oracle world).2.store := by
  have hwrites := performCall_writes deployment thread call oracle world
  generalize (performCall deployment thread call oracle world).2.store = later at hwrites ⊢
  cases hwrites with
  | nothing => exact .refl world.store
  | activate => exact .trans (.of_eq rfl) (.queueForObservers (fun _ hkind => hkind) _ _ _ _ _)
  | @abandon dispute id reason now =>
    -- The two marks are the ones an abandoning logs; the observers' notices come after.
    unfold Store.abandonOpening
    refine .trans ?_ (.queueForObservers (fun kind hkind => ?_) _ _ _ _ _)
    · refine .trans (.trans (.of_eq ?_) (.append rfl _)) (.append rfl _)
      cases id <;> rfl
    · cases kind <;> first | rfl | cases hkind
  | @append new =>
    refine .append ?_ _
    exact beq_self_eq_true new.kind
  | handOff hclaim =>
    obtain ⟨-, rfl⟩ := Store.claimHandOff_eq_some hclaim
    refine .trans (.trans (.trans (.of_eq rfl) (.append rfl _)) (.append rfl _))
      (.queueForObservers (fun kind hkind => ?_) _ _ _ _ _)
    cases kind <;> first | rfl | cases hkind
  | startGuiding hclaim =>
    obtain ⟨-, rfl⟩ := Store.claimGuiding_eq_some hclaim
    refine .trans (.trans (.trans (.of_eq rfl) (.append rfl _)) (.append rfl _))
      (.queueForObservers (fun kind hkind => ?_) _ _ _ _ _)
    cases kind <;> first | rfl | cases hkind
  | recordHold => exact .append rfl _
  | record => exact world.store.logs_record _ _
  | _ => exact .of_eq rfl

/-! ## Messages and deliveries -/

/-- The messages and what is under way: the deliveries, the closings, the turns and the timers. -/
structure Traffic where
  messages : List Message
  sending : List (Nat × Passed)
  sent : List Passed
  recording : List (Nat × Passed)
  holdNotices : List (SessionId × Party)
  told : List Told
  finishing : Option Nat
  closings : Nat
  ticking : Option Nat
  running : List (Nat × SessionId)

/-- The traffic of a world. -/
def World.traffic (world : World) : Traffic :=
  { messages := world.store.messages
    sending := world.sending
    sent := world.sent
    recording := world.recording
    holdNotices := world.holdNotices
    told := world.told
    finishing := world.finishing
    closings := world.closings
    ticking := world.ticking
    running := world.running }

/-- The call may change the traffic. -/
def Call.isTraffic {β : Type} : Call β → Bool
  | .gate _ _ | .sendEvent _ | .insertMessage _ | .recordHold _ _ | .sendDm _ _ _ => true
  | .lockFinishing | .unlockFinishing | .joinTurn _ | .joinTick => true
  | _ => false

/-- A store without new messages leaves the traffic. -/
theorem World.traffic_of_messages {world : World} {store : Store}
    (h : store.messages = world.store.messages) :
    ({ world with store := store } : World).traffic = world.traffic := by
  simp only [World.traffic, h]

/-- Every other call leaves the traffic as it is. -/
theorem performCall_traffic (deployment : Deployment) {β : Type} (thread : Thread Task)
    (call : Call β) (hcall : call.isTraffic = false) (oracle : Oracle) (world : World) :
    (performCall deployment thread call oracle world).2.traffic = world.traffic := by
  have hmakes := performCall_makes deployment thread call oracle world
  generalize (performCall deployment thread call oracle world).2 = later at hmakes ⊢
  cases hmakes with
  | activate =>
    simp only [World.activate, World.traffic, Store.queueForObservers_messages, Store.setState,
      Store.updateSessions_messages]
  | @abandon dispute id reason now =>
    exact World.traffic_of_messages
      (Stepped.abandonOpening_spec world.store deployment.observers dispute id reason now).2.2.1
  | handOff hclaim =>
    exact World.traffic_of_messages (Stepped.claimHandOff_spec hclaim).2.2.2.1
  | startGuiding hclaim =>
    exact World.traffic_of_messages (Stepped.claimGuiding_spec hclaim).2.2.2.1
  | @record dispute now =>
    exact World.traffic_of_messages (world.store.record_cases dispute now).1
  | _ => first | rfl | cases hcall

/-- The call sends a message or stores one, or starts a hold. -/
def Call.isMail {β : Type} : Call β → Bool
  | .gate _ _ | .sendEvent _ | .insertMessage _ | .recordHold _ _ => true
  | _ => false

/-- Any other call leaves the messages and their deliveries as they are. -/
theorem performCall_mail (deployment : Deployment) {β : Type} (thread : Thread Task)
    (call : Call β) (hcall : call.isMail = false) (oracle : Oracle) (world : World) :
    let later := (performCall deployment thread call oracle world).2
    later.store.messages = world.store.messages ∧ later.sending = world.sending ∧
      later.sent = world.sent ∧ later.recording = world.recording ∧
        later.holdNotices = world.holdNotices := by
  have hmakes := performCall_makes deployment thread call oracle world
  dsimp only
  generalize (performCall deployment thread call oracle world).2 = later at hmakes ⊢
  cases hmakes with
  | activate =>
    exact ⟨Store.queueForObservers_messages _ _ _ _ _, rfl, rfl, rfl, rfl⟩
  | abandon =>
    exact ⟨(Stepped.abandonOpening_spec world.store _ _ _ _ _).2.2.1, rfl, rfl, rfl, rfl⟩
  | handOff hclaim =>
    exact ⟨(Stepped.claimHandOff_spec hclaim).2.2.2.1, rfl, rfl, rfl, rfl⟩
  | startGuiding hclaim =>
    exact ⟨(Stepped.claimGuiding_spec hclaim).2.2.2.1, rfl, rfl, rfl, rfl⟩
  | record => exact ⟨(world.store.record_cases _ _).1, rfl, rfl, rfl, rfl⟩
  | _ => first | exact ⟨rfl, rfl, rfl, rfl, rfl⟩ | cases hcall

/-- Storing an outbound message ends its sending, and adds the message or nothing. -/
theorem performCall_insertMessage (deployment : Deployment) (thread : Thread Task)
    (new : NewMessage) (oracle : Oracle) (world : World) :
    ∃ messages, (performCall deployment thread (.insertMessage new) oracle world).2 =
        { world.endSending thread.number new with
          store := { world.store with messages := messages } } ∧
      (messages = world.store.messages ∨
        messages = world.store.messages ++ [new.row (world.store.messages.length + 1)]) := by
  simp only [performCall, World.orFail]
  split
  · exact ⟨_, rfl, Or.inl rfl⟩
  split
  · exact ⟨_, rfl, Or.inl rfl⟩
  · next inserted store hinsert =>
    rcases (Store.insertMessageIfNew_eq_ok hinsert).2 with ⟨-, rfl, -⟩ | ⟨-, rfl⟩
    · exact ⟨_, rfl, Or.inl rfl⟩
    · exact ⟨_, rfl, Or.inr rfl⟩

/-- What happens outside the tasks adds at most a party's message, and leaves the rest of the traffic
and the events. -/
theorem happen_traffic {happening : Happening} {world later : World}
    (h : happen deployment happening world = some later) :
    later.store.events = world.store.events ∧
      (later.traffic = world.traffic ∨ ∃ message : Message, message.direction = .inbound ∧
        message.id = world.store.messages.length + 1 ∧
          later.traffic = { world.traffic with messages := world.store.messages ++ [message] }) := by
  cases happens_of_happen h with
  | received _ hinbound => exact ⟨rfl, Or.inr ⟨_, hinbound, rfl, rfl⟩⟩
  | _ => exact ⟨rfl, Or.inl rfl⟩

/-- What the start of a task leaves on the traffic: all but the turns and the timers. -/
theorem launch_traffic {world later : World} (h : launch thread world = some later) :
    later.store = world.store ∧
      { later.traffic with ticking := none, running := [] } =
        { world.traffic with ticking := none, running := [] } := by
  unfold launch at h
  repeat' split at h
  all_goals cases h
  all_goals exact ⟨rfl, rfl⟩

/-! ## Evaluations -/

/-- The call records an evaluation. -/
def Call.judges {β : Type} : Call β → Bool
  | .insertEvaluation _ => true
  | _ => false

/-- No other call records one. -/
theorem performCall_evaluations (deployment : Deployment) {β : Type} (thread : Thread Task)
    (call : Call β) (hcall : call.judges = false) (oracle : Oracle) (world : World) :
    (performCall deployment thread call oracle world).2.store.evaluations =
      world.store.evaluations := by
  have hwrites := performCall_writes deployment thread call oracle world
  generalize (performCall deployment thread call oracle world).2.store = later at hwrites ⊢
  cases hwrites with
  | insertEvaluation => cases hcall
  | activate => exact Store.queueForObservers_evaluations _ _ _ _ _
  | abandon => exact (Stepped.abandonOpening_spec world.store _ _ _ _ _).2.2.2.1
  | handOff hclaim => exact (Stepped.claimHandOff_spec hclaim).2.2.2.2.1
  | startGuiding hclaim => exact (Stepped.claimGuiding_spec hclaim).2.2.2.2.1
  | record => exact (world.store.record_cases _ _).2.1
  | _ => rfl

/-- What happens outside the tasks changes no table but the messages. -/
theorem happen_store {happening : Happening} {world later : World}
    (h : happen deployment happening world = some later) :
    ∃ messages, later.store = { world.store with messages := messages } := by
  cases happens_of_happen h with
  | _ => exact ⟨_, rfl⟩

/-- What happens outside the tasks judges nothing. -/
theorem happen_evaluations {happening : Happening} {world later : World}
    (h : happen deployment happening world = some later) :
    later.store.evaluations = world.store.evaluations := by
  obtain ⟨messages, hlater⟩ := happen_store h
  rw [hlater]

end Serbero
