import Serbero.Notifier.Observers
import Serbero.Store.Tables

/-! # Delivering observer notices

A delivery reads the queue once and waits for a relay after every notice it sends; notices are queued
meanwhile. What it read of the notices it has left stays true, since nobody else attempts them: from
that, its attempts keep the log's invariant, and the log keeps the queue's promises. -/

namespace Serbero

variable {events : List ObserverEvent} {notice : Notice} {now : Int}

/-! ## Appending a row -/

/-- A row of another kind leaves the instants. -/
theorem timesOf_append_kind {kind : ObserverKind → Bool} {row : ObserverKind} {other : Notice}
    {at' : Int} (h : kind row = false) :
    timesOf kind notice (events ++ [⟨other, row, at'⟩]) = timesOf kind notice events := by
  rw [timesOf_append, h]
  simp

/-- A row of another notice leaves the instants. -/
theorem timesOf_append_ne {kind : ObserverKind → Bool} {row : ObserverKind} {other : Notice}
    {at' : Int} (h : other ≠ notice) :
    timesOf kind notice (events ++ [⟨other, row, at'⟩]) = timesOf kind notice events := by
  rw [timesOf_append]
  simp [h]

/-- A row of the kind about the notice adds its time. -/
theorem timesOf_append_self {kind : ObserverKind → Bool} {row : ObserverKind} {at' : Int}
    (h : kind row = true) :
    timesOf kind notice (events ++ [⟨notice, row, at'⟩]) = timesOf kind notice events ++ [at'] := by
  rw [timesOf_append, h]
  simp

/-- Rows are only added. -/
theorem mem_timesOf_append {kind : ObserverKind → Bool} {event : ObserverEvent} {at' : Int}
    (h : at' ∈ timesOf kind notice events) : at' ∈ timesOf kind notice (events ++ [event]) := by
  rw [timesOf_append]
  exact List.mem_append_left _ h

/-- Queueing a notice nobody queued yet keeps the log's invariant. -/
theorem LogInv.append_pending (h : LogInv events)
    (hnew : timesOf ObserverKind.isPending notice events = []) (now : Int) :
    LogInv (events ++ [⟨notice, .pending, now⟩]) where
  once other := by
    by_cases hsame : notice = other
    · subst hsame
      rw [timesOf_append_self (by rfl), hnew]
      rfl
    · rw [timesOf_append_ne hsame]
      exact h.once other
  after other at' hattempt := by
    rw [timesOf_append_kind (by rfl), timesOf_append_kind (by rfl)] at hattempt
    obtain ⟨queuedAt, hqueued, hle⟩ := h.after other at' hattempt
    exact ⟨queuedAt, mem_timesOf_append hqueued, hle⟩
  spaced other := by
    rw [timesOf_append_kind (by rfl)]
    exact h.spaced other

/-- An attempt of a queued notice, recorded with its outcome. -/
theorem LogInv.append_attempt (h : LogInv events)
    (hqueued : ∃ queuedAt ∈ timesOf ObserverKind.isPending notice events, queuedAt ≤ now)
    (hpaced : Paced (timesOf ObserverKind.isFailed notice events) now) {outcome : ObserverKind}
    (houtcome : outcome.isPending = false) :
    LogInv (events ++ [⟨notice, outcome, now⟩]) where
  once other := by
    rw [timesOf_append_kind houtcome]
    exact h.once other
  after other at' hattempt := by
    rw [timesOf_append_kind houtcome]
    -- The row is the new one, or it was there before.
    by_cases hnew : notice = other ∧ at' = now
    · obtain ⟨rfl, rfl⟩ := hnew
      exact hqueued
    · refine h.after other at' ?_
      simp only [timesOf_append, List.mem_append] at hattempt
      have hold : ∀ kind : ObserverKind → Bool,
          at' ∉ if kind outcome && notice == other then [now] else [] := by
        intro kind hmem
        split at hmem
        · next hkind =>
          have hsame : notice = other := beq_iff_eq.1 (Bool.and_eq_true_iff.1 hkind).2
          exact hnew ⟨hsame, List.mem_singleton.1 hmem⟩
        · cases hmem
      exact hattempt.imp (fun h => h.resolve_right (hold _)) (fun h => h.resolve_right (hold _))
  spaced other := by
    by_cases hsame : notice = other
    · subst hsame
      cases hfailed : outcome.isFailed with
      | true =>
        rw [timesOf_append_self hfailed]
        exact (h.spaced notice).append hpaced
      | false =>
        rw [timesOf_append_kind hfailed]
        exact h.spaced notice
    · rw [timesOf_append_ne hsame]
      exact h.spaced other

/-! ## Queueing -/

/-- What one more notice leaves: the log as it was, or one row more. -/
theorem queueOne_cases (now : Int) (events : List ObserverEvent) (notice : Notice) :
    queueOne now events notice = events ∨
      timesOf ObserverKind.isPending notice events = [] ∧
        queueOne now events notice = events ++ [⟨notice, .pending, now⟩] := by
  rw [queueOne]
  split
  · exact Or.inl rfl
  · next hnew =>
    refine Or.inr ⟨?_, rfl⟩
    rw [List.eq_nil_iff_forall_not_mem]
    intro at' hmem
    obtain ⟨event, hrow, hpending, hnotice, -⟩ := mem_timesOf.1 hmem
    exact hnew (List.any_eq_true.2 ⟨event, hrow, by simp [hpending, hnotice]⟩)

/-- What queueing leaves alone: every attempt, and every row that was there. -/
structure Queues (now : Int) (events later : List ObserverEvent) : Prop where
  log : LogInv events → LogInv later
  rows : ∀ event ∈ later, event ∈ events ∨ event.createdAt = now
  pending : ∀ notice, ∀ at' ∈ timesOf ObserverKind.isPending notice events,
    at' ∈ timesOf ObserverKind.isPending notice later
  failed : ∀ notice, timesOf ObserverKind.isFailed notice later =
    timesOf ObserverKind.isFailed notice events
  notified : ∀ notice, timesOf ObserverKind.isNotified notice later =
    timesOf ObserverKind.isNotified notice events

/-- Queueing nothing. -/
theorem Queues.refl (now : Int) (events : List ObserverEvent) : Queues now events events :=
  ⟨id, fun _ => Or.inl, fun _ _ => id, fun _ => rfl, fun _ => rfl⟩

/-- Queueing twice. -/
theorem Queues.trans {now : Int} {events middle later : List ObserverEvent}
    (h : Queues now events middle) (h' : Queues now middle later) : Queues now events later where
  log := h'.log ∘ h.log
  rows event hmem := (h'.rows event hmem).elim (h.rows event) Or.inr
  pending notice at' hmem := h'.pending notice at' (h.pending notice at' hmem)
  failed notice := (h'.failed notice).trans (h.failed notice)
  notified notice := (h'.notified notice).trans (h.notified notice)

/-- One notice, unless it was queued before. -/
theorem queueOne_queues (now : Int) (events : List ObserverEvent) (notice : Notice) :
    Queues now events (queueOne now events notice) := by
  rcases queueOne_cases now events notice with hsame | ⟨hnew, hqueued⟩
  · rw [hsame]
    exact Queues.refl now events
  · rw [hqueued]
    exact {
      log := fun h => h.append_pending hnew now
      rows := by
        intro event hmem
        rcases List.mem_append.1 hmem with hbefore | hlast
        · exact Or.inl hbefore
        · rw [List.mem_singleton.1 hlast]
          exact Or.inr rfl
      pending := fun _ _ hmem => mem_timesOf_append hmem
      failed := fun _ => timesOf_append_kind (by rfl)
      notified := fun _ => timesOf_append_kind (by rfl) }

/-- A notice to every observer, by induction on them. -/
theorem queue_queues (events : List ObserverEvent) (observers : List Nat)
    (disputeId subject : String) (now : Int) :
    Queues now events (queue events observers disputeId subject now).2 := by
  rw [queue]
  split
  · exact Queues.refl now events
  · split
    · exact Queues.refl now events
    · generalize observers.map (fun observer => (⟨disputeId, observer, subject⟩ : Notice)) = notices
      show Queues now events (notices.foldl (queueOne now) events)
      induction notices generalizing events with
      | nil => exact Queues.refl now events
      | cons notice rest ih => exact (queueOne_queues now events notice).trans (ih _)

/-- The notices a store has queued, under the text that names each dispute. -/
def Store.observerEvents (store : Store) (name : DisputeId → String) : List ObserverEvent :=
  store.events.filterMap fun event =>
    match event.kind with
    | .observerPending observer subject =>
      some ⟨⟨name event.disputeId, observer, subject⟩, .pending, event.createdAt⟩
    | _ => none

/-- Queueing in the store is `queue`, where the names of the disputes are single tokens of their
own. -/
theorem Store.queueForObservers_eq {name : DisputeId → String} (hname : Function.Injective name)
    (htoken : ∀ id, isOneToken (name id) = true) (store : Store) (observers : List Nat)
    (id : DisputeId) (subject : String) (now : Int) :
    (store.queueForObservers observers id subject now).observerEvents name =
      (queue (store.observerEvents name) observers (name id) subject now).2 := by
  have hone : ∀ (store : Store) (observer : Nat),
      (store.queueForObserver id subject now observer).observerEvents name =
        queueOne now (store.observerEvents name) ⟨name id, observer, subject⟩ := by
    intro store observer
    -- A dispute's name is its own, so the queue finds the same rows under it.
    have hqueued : observerQueued (store.observerEvents name) ⟨name id, observer, subject⟩ =
        store.events.any fun event => event.disputeId == id &&
          event.kind == .observerPending observer subject := by
      rw [Bool.eq_iff_iff, observerQueued, List.any_eq_true, List.any_eq_true]
      constructor
      · rintro ⟨row, hrow, hsame⟩
        obtain ⟨event, hevent, hsome⟩ := List.mem_filterMap.1 hrow
        refine ⟨event, hevent, ?_⟩
        split at hsome
        · next other text hkind =>
          obtain rfl := (Option.some.inj hsome).symm
          simp only [ObserverKind.isPending, Bool.true_and, beq_iff_eq, Notice.mk.injEq] at hsame
          obtain ⟨hid, rfl, rfl⟩ := hsame
          simp [hkind, hname hid]
        · cases hsome
      · rintro ⟨event, hevent, hsame⟩
        obtain ⟨hid, hkind⟩ := Bool.and_eq_true_iff.1 hsame
        refine ⟨⟨⟨name id, observer, subject⟩, .pending, event.createdAt⟩,
          List.mem_filterMap.2 ⟨event, hevent, ?_⟩, ?_⟩
        · rw [beq_iff_eq.1 hkind, beq_iff_eq.1 hid]
        · simp [ObserverKind.isPending]
    rw [queueOne, hqueued, Store.queueForObserver]
    split
    · rfl
    · simp [Store.observerEvents, Store.append]
  rw [queue, htoken id]
  cases observers with
  | nil => rfl
  | cons first rest =>
    generalize hall : first :: rest = observers
    rw [if_neg (by simp [← hall]), if_neg (by simp)]
    show (store.queueForObservers observers id subject now).observerEvents name =
      (observers.map _).foldl (queueOne now) (store.observerEvents name)
    clear hall
    -- By induction over the observers: each is queued on what the one before left.
    induction observers generalizing store with
    | nil => rfl
    | cons observer others ih =>
      rw [List.map_cons, List.foldl_cons, ← hone, ← ih]
      rfl

/-! ## The delivery under way -/

/-- The notices a delivery has still to record: the one it sends, and the ones it has not come to. -/
def Delivery.left (delivery : Delivery) : List ObserverNotice :=
  delivery.sending.toList ++ delivery.notices

/-- What a delivery read still holds of the notices it has left: nobody else attempts them. -/
structure Delivery.Inv (delivery : Delivery) (events : List ObserverEvent) : Prop where
  log : LogInv delivery.before
  rows : ∀ event ∈ delivery.before, event.createdAt ≤ delivery.now
  read : ∀ notice ∈ delivery.left,
    notice ∈ pendingObserverNotices delivery.before (delivery.now - retryWindowSecs)
  nodup : (delivery.left.map ObserverNotice.toNotice).Nodup
  failed : ∀ notice ∈ delivery.left, timesOf ObserverKind.isFailed notice.toNotice events =
    timesOf ObserverKind.isFailed notice.toNotice delivery.before
  notified : ∀ notice ∈ delivery.left, timesOf ObserverKind.isNotified notice.toNotice events = []
  pending : ∀ notice, ∀ at' ∈ timesOf ObserverKind.isPending notice delivery.before,
    at' ∈ timesOf ObserverKind.isPending notice events
  sends : ∀ notice ∈ delivery.sending, delivery.sends notice = true
  owes : ∀ notice, delivery.Owes notice →
    notice ∈ delivery.attempted ∨ ∃ pending ∈ delivery.notices, pending.toNotice = notice

namespace Delivery

variable {delivery : Delivery}

/-- A notice left to send was queued within the window. -/
theorem Inv.inDay (h : delivery.Inv events) {pending : ObserverNotice}
    (hmem : pending ∈ delivery.left) : InDay events pending.toNotice delivery.now := by
  obtain ⟨⟨queuedAt, hqueued, hsince⟩, -⟩ := h.log.of_mem (h.read pending hmem)
  obtain ⟨event, hrow, -, -, rfl⟩ := mem_timesOf.1 hqueued
  exact ⟨event.createdAt, h.pending _ _ hqueued, h.rows event hrow, by omega⟩

/-- A notice that is due has let every wait pass. -/
theorem Inv.paced (h : delivery.Inv events) {pending : ObserverNotice}
    (hmem : pending ∈ delivery.left) (hsends : delivery.sends pending = true) :
    Paced (timesOf ObserverKind.isFailed pending.toNotice events) delivery.now := by
  obtain ⟨-, -, hfailures, hlast⟩ := h.log.of_mem (h.read pending hmem)
  have hspaced := h.log.spaced pending.toNotice
  rw [Delivery.sends, hfailures, hlast] at hsends
  rw [h.failed pending hmem]
  exact hspaced.paced ((due_iff_pastWait hspaced).1 (Bool.and_eq_true_iff.1 hsends).2)

/-- A notice the delivery owes is sent once the delivery comes to it. -/
theorem Inv.sends_of_owes (h : delivery.Inv events) {pending : ObserverNotice}
    (hmem : pending ∈ delivery.left) (howes : delivery.Owes pending.toNotice) :
    delivery.sends pending = true := by
  obtain ⟨-, -, hfailures, hlast⟩ := h.log.of_mem (h.read pending hmem)
  have hdue := (due_iff_pastWait (h.log.spaced pending.toNotice)).2 howes.pastWait
  rw [Delivery.sends, hfailures, hlast, hdue, Bool.and_true]
  exact List.contains_iff_mem.2 howes.configured

/-- Queueing notices meanwhile changes nothing for it. -/
theorem Inv.queues (h : delivery.Inv events) {now : Int} {later : List ObserverEvent}
    (hqueues : Queues now events later) : delivery.Inv later :=
  { h with
    failed := fun notice hmem => (hqueues.failed _).trans (h.failed notice hmem)
    notified := fun notice hmem => (hqueues.notified _).trans (h.notified notice hmem)
    pending := fun notice at' hmem => hqueues.pending notice at' (h.pending notice at' hmem) }

/-- The delivery passes over notices it does not send; what it owes is still ahead. -/
theorem Inv.skip (h : delivery.Inv events) (hidle : delivery.sending = none)
    {skipped rest : List ObserverNotice} (hnotices : delivery.notices = skipped ++ rest)
    (hskipped : ∀ notice ∈ skipped, delivery.sends notice = false) :
    ({ delivery with notices := rest } : Delivery).Inv events := by
  have hleft : ∀ notice ∈ ({ delivery with notices := rest } : Delivery).left,
      notice ∈ delivery.left := by
    intro notice hmem
    rw [left, hidle] at hmem ⊢
    rw [hnotices]
    exact List.mem_append_right _ (List.mem_append_right _ hmem)
  exact {
    log := h.log
    rows := h.rows
    read := fun notice hmem => h.read notice (hleft notice hmem)
    nodup := by
      refine h.nodup.sublist (List.Sublist.map _ ?_)
      rw [left, left, hidle, hnotices]
      exact List.sublist_append_right skipped rest
    failed := fun notice hmem => h.failed notice (hleft notice hmem)
    notified := fun notice hmem => h.notified notice (hleft notice hmem)
    pending := h.pending
    sends := h.sends
    owes := by
      intro notice howes
      rcases h.owes notice ⟨howes.configured, howes.undelivered, howes.inDay, howes.pastWait⟩ with
        hdone | ⟨pending, hmem, rfl⟩
      · exact Or.inl hdone
      · refine Or.inr ⟨pending, ?_, rfl⟩
        rw [hnotices] at hmem
        rcases List.mem_append.1 hmem with hskip | hrest
        · -- What was passed over is not sent, and what is owed is.
          have hmem : pending ∈ delivery.left := by
            rw [left, hnotices]
            exact List.mem_append_right _ (List.mem_append_left _ hskip)
          have hsends := h.sends_of_owes hmem
            ⟨howes.configured, howes.undelivered, howes.inDay, howes.pastWait⟩
          rw [hskipped pending hskip] at hsends
          cases hsends
        · exact hrest }

/-- It sends the first notice left. -/
theorem Inv.pick (h : delivery.Inv events) (hidle : delivery.sending = none)
    {pending : ObserverNotice} {rest : List ObserverNotice}
    (hnotices : delivery.notices = pending :: rest) (hsends : delivery.sends pending = true) :
    ({ delivery with
        notices := rest
        sending := some pending
        attempted := delivery.attempted ++ [pending.toNotice] } : Delivery).Inv events := by
  have hleft : ({ delivery with
      notices := rest
      sending := some pending
      attempted := delivery.attempted ++ [pending.toNotice] } : Delivery).left = delivery.left := by
    rw [left, left, hidle, hnotices]
    rfl
  exact {
    log := h.log
    rows := h.rows
    read := by rw [hleft]; exact h.read
    nodup := by rw [hleft]; exact h.nodup
    failed := by rw [hleft]; exact h.failed
    notified := by rw [hleft]; exact h.notified
    pending := h.pending
    sends := by
      intro notice hmem
      obtain rfl := Option.some.inj hmem
      exact hsends
    owes := by
      intro notice howes
      rcases h.owes notice ⟨howes.configured, howes.undelivered, howes.inDay, howes.pastWait⟩ with
        hdone | ⟨other, hmem, rfl⟩
      · exact Or.inl (List.mem_append_left _ hdone)
      · rw [hnotices] at hmem
        rcases List.mem_cons.1 hmem with rfl | hrest
        · exact Or.inl (List.mem_append_right _ (List.mem_singleton.2 rfl))
        · exact Or.inr ⟨other, hrest, rfl⟩ }

/-- The send it waited for was recorded. -/
theorem Inv.recorded (h : delivery.Inv events) {pending : ObserverNotice} {outcome : ObserverKind}
    {delivered : Nat} (hsending : delivery.sending = some pending) :
    ({ delivery with sending := none, delivered := delivered } : Delivery).Inv
      (events ++ [⟨pending.toNotice, outcome, delivery.now⟩]) := by
  have hleft : delivery.left = pending :: delivery.notices := by
    rw [left, hsending]
    rfl
  have hmem : ∀ notice ∈ delivery.notices, notice ∈ delivery.left := by
    intro notice hmem
    rw [hleft]
    exact .tail _ hmem
  -- Two pending notices differ, so the new row is about this one alone.
  have hother : ∀ notice ∈ delivery.notices, pending.toNotice ≠ notice.toNotice := by
    intro notice hmem heq
    have hnodup := h.nodup
    rw [hleft, List.map_cons, List.nodup_cons] at hnodup
    exact hnodup.1 (heq ▸ List.mem_map_of_mem hmem)
  exact {
    log := h.log
    rows := h.rows
    read := fun notice hnotice => h.read notice (hmem notice hnotice)
    nodup := by
      have hnodup := h.nodup
      rw [hleft, List.map_cons, List.nodup_cons] at hnodup
      exact hnodup.2
    failed := by
      intro notice hnotice
      rw [timesOf_append_ne (hother notice hnotice)]
      exact h.failed notice (hmem notice hnotice)
    notified := by
      intro notice hnotice
      rw [timesOf_append_ne (hother notice hnotice)]
      exact h.notified notice (hmem notice hnotice)
    pending := fun notice at' hat => mem_timesOf_append (h.pending notice at' hat)
    sends := nofun
    owes := fun notice howes =>
      h.owes notice ⟨howes.configured, howes.undelivered, howes.inDay, howes.pastWait⟩ }

end Delivery

/-! ## The invariant of the queue -/

/-- What holds of the log and of everything recorded, whether or not a delivery is under way. -/
structure ObserverQueue.Inv (queue : ObserverQueue) : Prop where
  log : LogInv queue.events
  rows : ∀ event ∈ queue.events, event.createdAt ≤ queue.clock
  sent : ∀ notice, (queue.sent.map ObserverDm.notice).count notice =
    (timesOf ObserverKind.isNotified notice queue.events).length
  once : ∀ notice, (timesOf ObserverKind.isNotified notice queue.events).length ≤ 1
  attempts : ∀ attempt ∈ queue.attempts, attempt.Sound
  next : ∀ delivery ∈ queue.ended, ∀ notice, delivery.Owes notice → notice ∈ delivery.attempted

/-- The delivery under way still holds what it read. -/
def ObserverQueue.Delivers (queue : ObserverQueue) : Prop :=
  ∀ delivery ∈ queue.delivering, delivery.Inv queue.events ∧ delivery.now ≤ queue.clock

namespace ObserverQueue

variable {queue next : ObserverQueue} {delivery : Delivery}

/-- The delivery moves on to the next notice it sends, or ends. -/
theorem Inv.advance (h : queue.Inv) (hdelivery : delivery.Inv queue.events)
    (hidle : delivery.sending = none) (hclock : delivery.now ≤ queue.clock) :
    (queue.advance delivery).Inv ∧ (queue.advance delivery).Delivers := by
  have hsplit := List.takeWhile_append_dropWhile (p := fun notice => !delivery.sends notice)
    (l := delivery.notices)
  have hskipped : ∀ notice ∈ delivery.notices.takeWhile (fun notice => !delivery.sends notice),
      delivery.sends notice = false := by
    intro notice hmem
    simpa using List.mem_takeWhile_imp hmem
  -- The notices at the head that this pass does not send are dropped together.
  have hinv := hdelivery.skip hidle hsplit.symm hskipped
  rw [ObserverQueue.advance]
  split
  · next hrest =>
    rw [hrest] at hinv
    refine ⟨{ h with next := ?_ }, nofun⟩
    intro finished hmem notice howes
    rcases List.mem_append.1 hmem with hbefore | hlast
    · exact h.next finished hbefore notice howes
    · obtain rfl := List.mem_singleton.1 hlast
      -- Whatever was owed is delivered or left, and nothing is left.
      rcases hinv.owes notice ⟨howes.configured, howes.undelivered, howes.inDay, howes.pastWait⟩ with
        hdone | ⟨pending, hmem, -⟩
      · exact hdone
      · cases hmem
  · next pending rest hrest =>
    have hsends : delivery.sends pending = true := by
      have hhead := List.head?_dropWhile_not (fun notice => !delivery.sends notice) delivery.notices
      rw [hrest] at hhead
      simpa using hhead
    rw [hrest] at hinv
    have hmem : pending ∈ ({ delivery with notices := pending :: rest } : Delivery).left :=
      List.mem_append_right _ (.head _)
    -- The attempt that begins now is recorded with what made it due.
    refine ⟨{ h with attempts := ?_ }, ?_⟩
    · intro attempt hattempt
      rcases List.mem_append.1 hattempt with hbefore | hlast
      · exact h.attempts attempt hbefore
      · obtain rfl := List.mem_singleton.1 hlast
        exact {
          configured := List.contains_iff_mem.1 (Bool.and_eq_true_iff.1 hsends).1
          inDay := hinv.inDay hmem
          paced := hinv.paced hmem hsends }
    · intro now hnow
      obtain rfl := Option.some.inj hnow
      exact ⟨hinv.pick hidle rfl hsends, hclock⟩

/-- Notices queued while a delivery is under way join a later one. -/
theorem Inv.queueCall (h : queue.Inv) (hdelivers : queue.Delivers) (observers : List Nat)
    (disputeId subject : String) {now : Int} (hclock : queue.clock ≤ now) :
    ({ queue with
        clock := now
        events := (Serbero.queue queue.events observers disputeId subject now).2 } :
        ObserverQueue).Inv ∧
      ({ queue with
        clock := now
        events := (Serbero.queue queue.events observers disputeId subject now).2 } :
        ObserverQueue).Delivers := by
  have hqueues := queue_queues queue.events observers disputeId subject now
  refine ⟨{ h with log := hqueues.log h.log, rows := ?_, sent := ?_, once := ?_ }, ?_⟩
  · intro event hmem
    rcases hqueues.rows event hmem with hbefore | hnow
    · exact (h.rows event hbefore).trans hclock
    · exact hnow.le
  · intro notice
    rw [hqueues.notified]
    exact h.sent notice
  · intro notice
    rw [hqueues.notified]
    exact h.once notice
  · intro delivery hmem
    obtain ⟨hinv, hnow⟩ := hdelivers delivery hmem
    exact ⟨hinv.queues hqueues, hnow.trans hclock⟩

/-- A call reads the log and starts with the first notice that is due. -/
theorem Inv.deliver (h : queue.Inv) (observers : List Nat) {now : Int} (hclock : queue.clock ≤ now) :
    (queue.deliver observers now).Inv ∧ (queue.deliver observers now).Delivers := by
  refine Inv.advance { h with rows := ?_ } ?_ rfl le_rfl
  · intro event hmem
    exact (h.rows event hmem).trans hclock
  · exact {
      log := h.log
      rows := fun event hmem => (h.rows event hmem).trans hclock
      read := fun notice hmem => hmem
      nodup := h.log.pending_nodup
      failed := fun _ _ => rfl
      notified := fun notice hmem => (h.log.of_mem hmem).2.1
      pending := fun _ _ => id
      sends := nofun
      owes := by
        rintro notice ⟨-, hnone, ⟨queuedAt, hqueued, -, hday⟩, -⟩
        have hsince : now - retryWindowSecs ≤ queuedAt := sub_le_iff_le_add.2 hday
        exact Or.inr (h.log.mem_of_queued hqueued hsince hnone) }

/-- The outcome of a send is recorded, and the delivery moves on. -/
theorem Inv.answered (h : queue.Inv) {pending : ObserverNotice}
    (hdelivery : delivery.Inv queue.events) (hclock : delivery.now ≤ queue.clock)
    (hsending : delivery.sending = some pending) (result : Except String Unit) :
    (queue.answered delivery pending result).Inv ∧
      (queue.answered delivery pending result).Delivers := by
  have hmem : pending ∈ delivery.left := by
    rw [Delivery.left, hsending]
    exact .head _
  obtain ⟨queuedAt, hqueued, hle, -⟩ := hdelivery.inDay hmem
  have hpaced := hdelivery.paced hmem (hdelivery.sends pending hsending)
  -- The new row is stamped with the pass's own time, which is not ahead of the clock.
  have hrows : ∀ outcome, ∀ event ∈ queue.events ++ [⟨pending.toNotice, outcome, delivery.now⟩],
      event.createdAt ≤ queue.clock := by
    intro outcome event hmem
    rcases List.mem_append.1 hmem with hbefore | hlast
    · exact h.rows event hbefore
    · rw [List.mem_singleton.1 hlast]
      exact hclock
  cases result with
  | ok result =>
    refine Inv.advance ?_ (hdelivery.recorded hsending) rfl hclock
    -- It was not told before, and from now on it is told once.
    have hnone := hdelivery.notified pending hmem
    exact {
      log := h.log.append_attempt ⟨queuedAt, hqueued, hle⟩ hpaced rfl
      rows := hrows _
      sent := by
        intro notice
        rw [List.map_append, List.count_append, h.sent notice]
        by_cases hsame : pending.toNotice = notice
        · subst hsame
          rw [timesOf_append_self (by rfl), List.length_append]
          simp
        · rw [timesOf_append_ne hsame]
          simp [hsame]
      once := by
        intro notice
        by_cases hsame : pending.toNotice = notice
        · subst hsame
          rw [timesOf_append_self (by rfl), hnone]
          exact le_rfl
        · rw [timesOf_append_ne hsame]
          exact h.once notice
      attempts := h.attempts
      next := h.next }
  | error failure =>
    -- A failure leaves every count as it was; the notice stays pending.
    refine Inv.advance ?_ (hdelivery.recorded hsending) rfl hclock
    exact {
      log := h.log.append_attempt ⟨queuedAt, hqueued, hle⟩ hpaced rfl
      rows := hrows _
      sent := by
        intro notice
        rw [timesOf_append_kind (by rfl)]
        exact h.sent notice
      once := by
        intro notice
        rw [timesOf_append_kind (by rfl)]
        exact h.once notice
      attempts := h.attempts
      next := h.next }

/-- **One step** of the queue or of a delivery. -/
theorem step_inv {step : ObserverStep} (h : queue.Inv) (hdelivers : queue.Delivers)
    (hstep : queue.step step = some next) : next.Inv ∧ next.Delivers := by
  cases step with
  | queue observers disputeId subject now =>
    rw [ObserverQueue.step] at hstep
    split at hstep
    · next hclock =>
      obtain rfl := Option.some.inj hstep
      exact h.queueCall hdelivers observers disputeId subject hclock
    · cases hstep
  | deliver observers now =>
    rw [ObserverQueue.step] at hstep
    split at hstep
    · next hfree =>
      obtain rfl := Option.some.inj hstep
      exact h.deliver observers (of_decide_eq_true (Bool.and_eq_true_iff.1 hfree).2)
    · cases hstep
  | answered result =>
    rw [ObserverQueue.step] at hstep
    split at hstep
    · cases hstep
    · next delivery hdelivering =>
      obtain ⟨pending, hsending, rfl⟩ := Option.map_eq_some_iff.1 hstep
      obtain ⟨hinv, hclock⟩ := hdelivers delivery hdelivering
      exact h.answered hinv hclock hsending result
  | restart =>
    rw [ObserverQueue.step] at hstep
    split at hstep
    · obtain rfl := Option.some.inj hstep
      exact ⟨h, hdelivers⟩
    · cases hstep

/-- **Any run**, by induction on its steps. -/
theorem run_inv {steps : List ObserverStep} (h : queue.Inv) (hdelivers : queue.Delivers)
    (hrun : queue.run steps = some next) : next.Inv ∧ next.Delivers := by
  induction steps generalizing queue with
  | nil =>
    obtain rfl := Option.some.inj hrun
    exact ⟨h, hdelivers⟩
  | cons step rest ih =>
    rw [run, List.foldlM_cons] at hrun
    obtain ⟨middle, hfirst, hrest⟩ := Option.bind_eq_some_iff.1 hrun
    obtain ⟨h, hdelivers⟩ := step_inv h hdelivers hfirst
    exact ih h hdelivers hrest

/-- Nothing is queued at the start. -/
theorem start_inv (clock : Int) : (start clock).Inv ∧ (start clock).Delivers := by
  refine ⟨?_, nofun⟩
  exact {
    log := by
      refine ⟨fun _ => Nat.zero_le _, fun _ _ h => ?_, fun _ earlier at' hbegins => ?_⟩
      · rcases h with h | h <;> cases h
      · exact absurd hbegins (by simp [start, timesOf])
    rows := nofun
    sent := fun _ => rfl
    once := fun _ => Nat.zero_le _
    attempts := nofun
    next := nofun }

end ObserverQueue

/-- **The observer queue.** Over every run, a notice is queued once and delivered once, every attempt
is for a configured observer, in the notice's day and after every wait, and a call attempts every
undelivered notice in its day that is past its wait. -/
theorem observer_queue_law (clock : Int) (steps : List ObserverStep) (queue : ObserverQueue)
    (hrun : (ObserverQueue.start clock).run steps = some queue) : queue.Law := by
  obtain ⟨hstart, hdelivers⟩ := ObserverQueue.start_inv clock
  obtain ⟨h, -⟩ := ObserverQueue.run_inv hstart hdelivers hrun
  exact {
    queuedOnce := h.log.once
    deliveredOnce := by
      intro notice
      rw [h.sent notice]
      exact h.once notice
    attempts := h.attempts
    next := h.next }

/-- The first delivery fails, a call within the minute leaves it alone, and the next one sends it. -/
theorem observer_queue_law_retried :
    let steps : List ObserverStep :=
      [.queue [7] "d1" "mediating" 0, .deliver [7] 10, .answered (.error "no relay answered"),
        .deliver [7] 69, .restart, .deliver [7] 70, .answered (.ok ())]
    ∃ queue, (ObserverQueue.start 0).run steps = some queue ∧
      queue.attempts.map Attempt.now = [10, 70] ∧ queue.Law := by
  intro steps
  have hattempts : ((ObserverQueue.start 0).run steps).map
      (fun queue => queue.attempts.map Attempt.now) = some [10, 70] := by
    decide +kernel
  obtain ⟨queue, hrun, hqueue⟩ := Option.map_eq_some_iff.1 hattempts
  exact ⟨queue, hrun, hqueue, observer_queue_law 0 steps queue hrun⟩

end Serbero
