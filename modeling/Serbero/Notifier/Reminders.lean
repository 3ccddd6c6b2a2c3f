import Serbero.Runtime.Backlog
import Serbero.Runtime.Sending

/-! # New-dispute notices and reminders

A dispute's first notification and the reminder ticks run side by side. Each waits for a relay after
every solver; meanwhile revisions are recorded and the other path may pick up the same dispute, which
is `new` until its first send is recorded. A tick reads the row again before it starts a notification,
and a late `markNotified` finds the row it may not change. -/

namespace Serbero

/-- The dispute waits for a solver. -/
def Dispute.waits (row : Dispute) : Bool := row.lifecycle == .new || row.lifecycle == .notified

/-! ## Notifying the solvers -/

/-- `notify_solvers` under way: it waits for a relay with the first solver that is left. -/
structure Broadcast where
  disputeId : DisputeId
  notification : String
  now : Int
  solvers : List Solver
  delivered : Nat
  deriving DecidableEq, Repr

/-- The attempt of one solver ends, and is recorded. -/
def Broadcast.answered (broadcast : Broadcast) (store : Store) (result : Except String Unit) :
    Option (Store × Broadcast) :=
  match broadcast.solvers with
  | [] => none
  | solver :: rest =>
    let (delivered, kind) := match result with
      | .ok () =>
        (broadcast.delivered + 1, EventKind.notificationSent solver.pubkey broadcast.notification)
      | .error _ =>
        (broadcast.delivered, EventKind.notificationFailed solver.pubkey broadcast.notification)
    some (store.append ⟨broadcast.disputeId, none, kind, broadcast.now⟩,
      { broadcast with solvers := rest, delivered := delivered })

/-- Recording an attempt writes no dispute, and keeps what is notified. -/
theorem Broadcast.answered_spec {broadcast next : Broadcast} {store later : Store}
    {result : Except String Unit} (h : broadcast.answered store result = some (later, next)) :
    later.disputes = store.disputes ∧ next.disputeId = broadcast.disputeId := by
  rw [Broadcast.answered] at h
  split at h
  · cases h
  · obtain ⟨rfl, rfl⟩ := Prod.mk.inj (Option.some.inj h)
    exact ⟨rfl, rfl⟩

/-! ## The notifier -/

/-- The notification a tick sends, for the row it read again. -/
structure Reminding where
  row : Dispute
  broadcast : Broadcast
  /-- For the record: the instant it began. -/
  begun : Int
  deriving DecidableEq, Repr

/-- A reminder tick under way. -/
structure ReminderTick where
  now : Int
  due : List Dispute
  sending : Option Reminding
  deriving DecidableEq, Repr

/-- A reminder that was delivered: the time its tick was given, and the instant it began. -/
structure Reminder where
  disputeId : DisputeId
  tick : Int
  begun : Int
  deriving DecidableEq, Repr

/-- The notifier with its store. -/
structure Notifier where
  store : Store
  clock : Int
  /-- First notifications under way. -/
  firsts : List Broadcast
  tick : Option ReminderTick
  /-- For the record: the store at the start of each notification a tick began, with its dispute. -/
  begun : List (DisputeId × Store)
  /-- For the record: the reminders that were delivered, in order. -/
  reminders : List Reminder
  /-- For the record: the disputes the new-dispute hook fired for, in order. -/
  hooks : List DisputeId

/-- Something the notifier does between two waits, or that happens meanwhile. -/
inductive NotifierAct
  | time (now : Int)
  /-- A dispute event is handled; `now` was read before the handler waited for the gate. -/
  | handle (dispute : DisputeEvent) (now : Int)
  /-- The send a first notification waits for ends. -/
  | answered (id : DisputeId) (result : Except String Unit)
  /-- A reminder tick begins. -/
  | remind
  /-- The tick comes to its next due dispute, or ends. -/
  | next
  /-- The send the tick waits for ends. -/
  | reminded (result : Except String Unit)
  /-- The rest of the daemon changes the store; it never writes a dispute. -/
  | elsewhere (store : Store)

namespace Notifier

variable (solvers : List Solver) (renotifyAfter : Int) (notifier : Notifier)

def start (clock : Int) : Notifier := ⟨.empty, clock, [], none, [], [], []⟩

/-- `handle_event`: a new dispute is told to the solvers, if there are any. -/
def handle (dispute : DisputeEvent) (now : Int) : Notifier :=
  match notifier.store.record dispute now with
  | (.new, store) =>
    { notifier with
      store := store
      firsts :=
        if solvers.isEmpty then notifier.firsts
        else notifier.firsts ++ [⟨dispute.disputeId, "new_dispute", now, solvers, 0⟩] }
  | (_, store) => { notifier with store := store }

/-- `notify_new` is over: the dispute is notified once at least one DM was delivered. -/
def firstOver (broadcast : Broadcast) : Notifier :=
  let firsts := notifier.firsts.filter fun other => other.disputeId != broadcast.disputeId
  if 0 < broadcast.delivered then
    { notifier with
      firsts := firsts
      store := notifier.store.markNotified broadcast.disputeId broadcast.now
      hooks := notifier.hooks ++ [broadcast.disputeId] }
  else { notifier with firsts := firsts }

def answered (id : DisputeId) (result : Except String Unit) : Option Notifier :=
  match notifier.firsts.find? fun broadcast => broadcast.disputeId == id with
  | none => none
  | some broadcast =>
    match broadcast.answered notifier.store result with
    | none => none
    | some (store, broadcast) =>
      let notifier := { notifier with store := store }
      if broadcast.solvers.isEmpty then some (notifier.firstOver broadcast)
      else some { notifier with
        firsts := notifier.firsts.map fun other =>
          if other.disputeId == id then broadcast else other }

/-- `remind`: one tick at a time. -/
def remind : Option Notifier :=
  if notifier.tick.isSome then none
  else some { notifier with
    tick := some ⟨notifier.clock,
      notifier.store.listAwaitingSolver (notifier.clock - renotifyAfter), none⟩ }

/-- A due dispute as it is stored now, unless it was taken or resolved since the list was read. -/
def current (due : Dispute) : Option Dispute :=
  (notifier.store.dispute due.disputeId).filter Dispute.waits

/-- The tick notifies the solvers of its next due dispute, if there are any solvers. -/
def begin (tick : ReminderTick) (row : Dispute) (rest : List Dispute) : Notifier :=
  if solvers.isEmpty then { notifier with tick := some { tick with due := rest } }
  else
    let notification := if row.lifecycle = .new then "new_dispute" else "reminder"
    { notifier with
      tick := some { tick with
        due := rest
        sending :=
          some ⟨row, ⟨row.disputeId, notification, tick.now, solvers, 0⟩, notifier.clock⟩ }
      begun := notifier.begun ++ [(row.disputeId, notifier.store)] }

def next : Option Notifier :=
  match notifier.tick with
  | none => none
  | some tick =>
    if tick.sending.isSome then none
    else match tick.due with
      | [] => some { notifier with tick := none }
      | due :: rest =>
        match notifier.current due with
        | none => some { notifier with tick := some { tick with due := rest } }
        | some row => some (notifier.begin solvers tick row rest)

/-- A notification of the tick is over. A first notification it renewed makes the dispute a candidate
for mediation. -/
def reminderOver (tick : ReminderTick) (sending : Reminding) (broadcast : Broadcast) : Notifier :=
  let notifier := { notifier with tick := some { tick with sending := none } }
  if 0 < broadcast.delivered then
    let notifier := { notifier with
      store := notifier.store.markNotified sending.row.disputeId tick.now }
    if sending.row.lifecycle = .new then
      { notifier with hooks := notifier.hooks ++ [sending.row.disputeId] }
    else { notifier with
      reminders := notifier.reminders ++ [⟨sending.row.disputeId, tick.now, sending.begun⟩] }
  else notifier

def reminded (result : Except String Unit) : Option Notifier :=
  match notifier.tick with
  | none => none
  | some tick =>
    match tick.sending with
    | none => none
    | some sending =>
      match sending.broadcast.answered notifier.store result with
      | none => none
      | some (store, broadcast) =>
        let notifier := { notifier with store := store }
        if broadcast.solvers.isEmpty then some (notifier.reminderOver tick sending broadcast)
        else some { notifier with
          tick := some { tick with sending := some { sending with broadcast := broadcast } } }

def act : NotifierAct → Option Notifier
  | .time now => if notifier.clock ≤ now then some { notifier with clock := now } else none
  | .handle dispute now =>
    if now ≤ notifier.clock then some (notifier.handle solvers dispute now) else none
  | .answered id result => notifier.answered id result
  | .remind => notifier.remind renotifyAfter
  | .next => notifier.next solvers
  | .reminded result => notifier.reminded result
  | .elsewhere store =>
    if store.disputes = notifier.store.disputes then some { notifier with store := store }
    else none

/-- The notifier after some acts, each of which meets the condition. -/
def run (condition : Notifier → NotifierAct → Bool) (acts : List NotifierAct) : Option Notifier :=
  acts.foldlM (fun notifier act =>
    if condition notifier act then notifier.act solvers renotifyAfter act else none) notifier

/-- The notification a tick is about to begin. -/
def upcoming : NotifierAct → Option (ReminderTick × Dispute)
  | .next => notifier.tick.bind fun tick =>
    tick.due.head?.bind fun due => (notifier.current due).map fun row => (tick, row)
  | _ => none

/-- A tick renews no first notification while the first one is under way. -/
def renewsAlone (act : NotifierAct) : Bool :=
  (notifier.upcoming act).all fun (_, row) =>
    row.lifecycle != .new ||
      notifier.firsts.all fun broadcast => broadcast.disputeId != row.disputeId

/-- A tick begins a reminder at the time the tick was given. -/
def remindsOnTime (act : NotifierAct) : Bool :=
  (notifier.upcoming act).all fun (tick, row) =>
    row.lifecycle == .new || notifier.clock == tick.now

/-- The two paths of a dispute's notifications keep apart, and a tick keeps its time. -/
def keepsApart (act : NotifierAct) : Bool := notifier.renewsAlone act && notifier.remindsOnTime act

/-- The dispute is recorded as taken or resolved. -/
def Settled (id : DisputeId) : Prop :=
  ∃ row ∈ notifier.store.disputes, row.disputeId = id ∧ row.waits = false

/-- What holds of the notifications so far. -/
structure Law : Prop where
  /-- A tick began its notifications for disputes that waited for a solver. -/
  begun : ∀ entry ∈ notifier.begun, ∃ row, entry.2.dispute entry.1 = some row ∧ row.waits = true
  /-- Delivered reminders of a dispute began far enough apart. -/
  spaced : notifier.reminders.Pairwise fun first second =>
    first.disputeId = second.disputeId → first.begun + renotifyAfter ≤ second.begun
  hookOnce : ∀ id, notifier.hooks.count id ≤ 1

end Notifier

/-! ## What the notifier writes -/

/-- What recording a revision does to the rows: it adds a row that no notification stamped, and it
takes disputes away from the ones that wait, or leaves their life cycles. -/
structure Revises (before after : List Dispute) : Prop where
  rows : ∀ later ∈ after,
    (∃ row ∈ before, later.disputeId = row.disputeId ∧
      later.lastNotifiedAt = row.lastNotifiedAt ∧
      (later.lifecycle = row.lifecycle ∨ later.waits = false)) ∨
    ((∀ row ∈ before, row.disputeId ≠ later.disputeId) ∧ later.lastNotifiedAt = none ∧
      later.lifecycle ≠ .notified)
  kept : ∀ row ∈ before, ∃ later ∈ after, later.disputeId = row.disputeId
  nodup : (before.map Dispute.disputeId).Nodup → (after.map Dispute.disputeId).Nodup

namespace Revises

/-- Rows revise themselves. -/
theorem refl (rows : List Dispute) : Revises rows rows where
  rows row hmem := Or.inl ⟨row, hmem, rfl, rfl, Or.inl rfl⟩
  kept row hmem := ⟨row, hmem, rfl⟩
  nodup := id

/-- A change that keeps ids and stamps, and makes nobody wait. -/
theorem map (rows : List Dispute) {change : Dispute → Dispute}
    (h : ∀ row, (change row).disputeId = row.disputeId ∧
      (change row).lastNotifiedAt = row.lastNotifiedAt ∧
      ((change row).lifecycle = row.lifecycle ∨ (change row).waits = false)) :
    Revises rows (rows.map change) where
  rows later hmem := by
    obtain ⟨row, hrow, rfl⟩ := List.mem_map.1 hmem
    exact Or.inl ⟨row, hrow, h row⟩
  kept row hmem := ⟨change row, List.mem_map_of_mem hmem, (h row).1⟩
  nodup hnodup := by
    have hids : (rows.map change).map Dispute.disputeId = rows.map Dispute.disputeId := by
      rw [List.map_map]
      exact List.map_congr_left fun row _ => (h row).1
    rw [hids]
    exact hnodup

/-- A row more that nobody was notified of. -/
theorem append (rows : List Dispute) {row : Dispute} (hnew : ∀ other ∈ rows, other.disputeId ≠ row.disputeId)
    (hunstamped : row.lastNotifiedAt = none) (hlifecycle : row.lifecycle ≠ .notified) :
    Revises rows (rows ++ [row]) where
  rows later hmem := by
    rcases List.mem_append.1 hmem with hbefore | hlast
    · exact Or.inl ⟨later, hbefore, rfl, rfl, Or.inl rfl⟩
    · obtain rfl := List.mem_singleton.1 hlast
      exact Or.inr ⟨hnew, hunstamped, hlifecycle⟩
  kept other hmem := ⟨other, List.mem_append_left _ hmem, rfl⟩
  nodup hnodup := by
    rw [List.map_append, List.nodup_append]
    refine ⟨hnodup, by simp, ?_⟩
    intro id hid last hlast heq
    obtain ⟨other, hother, rfl⟩ := List.mem_map.1 hid
    obtain rfl : last = row.disputeId := by simpa using hlast
    exact hnew other hother heq

end Revises

/-- No row of the dispute is stored. -/
theorem Store.dispute_eq_none {store : Store} {id : DisputeId} (h : store.dispute id = none) :
    ∀ row ∈ store.disputes, row.disputeId ≠ id := by
  intro row hmem heq
  have := List.find?_eq_none.1 h row hmem
  exact this (by simpa using heq)

/-- A row that is found is stored under its id. -/
theorem Store.mem_of_dispute {store : Store} {id : DisputeId} {row : Dispute}
    (h : store.dispute id = some row) : row ∈ store.disputes ∧ row.disputeId = id :=
  ⟨List.mem_of_find?_eq_some h, by simpa using List.find?_some h⟩

/-- Moving the life cycle never announces a dispute. -/
theorem Store.transition_ne_new (store : Store) (dispute : DisputeEvent) (existing : Dispute)
    (now : Int) : (store.transition dispute existing now).1 ≠ .new := by
  rw [Store.transition]
  split
  · cases existing.lifecycle <;> intro hnew <;> cases hnew
  · split <;> intro hnew <;> cases hnew

/-- A newer revision keeps the stamps, and takes the dispute away from the ones that wait at most. -/
theorem revises_of_lt {store : Store} {dispute : DisputeEvent} {existing : Dispute}
    (h : store.dispute dispute.disputeId = some existing)
    (hlt : existing.statusAt < dispute.revisionAt) (now : Int) :
    Revises store.disputes (store.record dispute now).2.disputes ∧
      (store.record dispute now).1 ≠ .new := by
  let applied := (store.updateDisputes (fun row => row.disputeId == dispute.disputeId) fun row =>
    { row with status := dispute.status, statusAt := dispute.revisionAt, updatedAt := now }).append
      ⟨dispute.disputeId, none, .statusChanged existing.status dispute.status, now⟩
  have hrecord : store.record dispute now = applied.transition dispute existing now := by
    rw [Store.record, h]
    simp only [Store.applyStatus, h, if_pos hlt]
    rfl
  rw [hrecord]
  refine ⟨?_, applied.transition_ne_new dispute existing now⟩
  rw [Store.disputes_transition]
  have hdisputes : applied.disputes = store.disputes.map fun row =>
      if row.disputeId == dispute.disputeId then
        { row with status := dispute.status, statusAt := dispute.revisionAt, updatedAt := now }
      else row := rfl
  cases hmoved : existing.lifecycle.moved dispute.status with
  | none =>
    rw [Store.withLifecycle, hdisputes]
    refine Revises.map _ fun row => ?_
    split <;> exact ⟨rfl, rfl, Or.inl rfl⟩
  | some lifecycle =>
    -- The life cycle moves only to where nobody waits.
    have hsettled : lifecycle = .taken ∨ lifecycle = .resolved := by
      revert hmoved
      cases existing.lifecycle <;> cases dispute.status <;> rintro ⟨⟩ <;> simp
    rw [Store.withLifecycle, Store.setLifecycle, Store.updateDisputes, hdisputes, List.map_map]
    refine Revises.map _ fun row => ?_
    by_cases hsame : (row.disputeId == dispute.disputeId) = true
    · simp only [Function.comp_apply, hsame, if_true]
      refine ⟨trivial, trivial, Or.inr ?_⟩
      rcases hsettled with rfl | rfl <;> rfl
    · simp only [Function.comp_apply, hsame, Bool.false_eq_true, if_false]
      exact ⟨trivial, trivial, Or.inl trivial⟩

/-- The row of a dispute that was not stored. -/
theorem revises_of_none {store : Store} {dispute : DisputeEvent}
    (h : store.dispute dispute.disputeId = none) (now : Int) :
    Revises store.disputes (store.record dispute now).2.disputes ∧
      ∃ row ∈ (store.record dispute now).2.disputes, row.disputeId = dispute.disputeId := by
  have hnew := Store.dispute_eq_none h
  let row : Dispute := ⟨dispute.disputeId, dispute.initiator, dispute.status, dispute.revisionAt,
    .new, now, none, now⟩
  have hinsert : store.insertDisputeIfNew
      ⟨dispute.disputeId, dispute.initiator, dispute.status, dispute.revisionAt, now⟩ =
      { store with disputes := store.disputes ++ [row] } := by
    rw [Store.insertDisputeIfNew, h]
    rfl
  have hmoved : ∀ lifecycle, (({ store with disputes := store.disputes ++ [row] } :
      Store).setLifecycle dispute.disputeId lifecycle now).disputes =
      store.disputes ++ [{ row with lifecycle := lifecycle, updatedAt := now }] := by
    intro lifecycle
    rw [Store.setLifecycle, Store.updateDisputes, List.map_append]
    show List.map _ store.disputes ++ List.map _ [row] = _
    congr 1
    · refine (List.map_congr_left fun other hother => ?_).trans (List.map_id _)
      rw [if_neg (by simpa using hnew other hother), id]
    · simp [row]
  rw [Store.record, h]
  simp only [hinsert]
  split
  · refine ⟨Revises.append _ hnew rfl ?_, row, List.mem_append_right _ (.head _), rfl⟩
    intro htaken
    cases htaken
  · simp only [Store.append_disputes, hmoved]
    refine ⟨Revises.append _ hnew rfl ?_, _, List.mem_append_right _ (.head _), rfl⟩
    split <;> intro htaken <;> cases htaken

/-- **A recorded revision.** What it announces was not stored. -/
theorem revises_record (store : Store) (dispute : DisputeEvent) (now : Int) :
    Revises store.disputes (store.record dispute now).2.disputes ∧
      ((store.record dispute now).1 = .new →
        (∀ row ∈ store.disputes, row.disputeId ≠ dispute.disputeId) ∧
          ∃ row ∈ (store.record dispute now).2.disputes, row.disputeId = dispute.disputeId) := by
  cases hdispute : store.dispute dispute.disputeId with
  | none =>
    obtain ⟨hrevises, hrow⟩ := revises_of_none hdispute now
    exact ⟨hrevises, fun _ => ⟨Store.dispute_eq_none hdispute, hrow⟩⟩
  | some existing =>
    by_cases hlt : existing.statusAt < dispute.revisionAt
    · obtain ⟨hrevises, hchange⟩ := revises_of_lt hdispute hlt now
      exact ⟨hrevises, fun hnew => absurd hnew hchange⟩
    · rw [store.record_of_le hdispute (not_lt.1 hlt)]
      exact ⟨Revises.refl _, nofun⟩

/-- A row after a notification was recorded: the dispute's own, stamped since it waits, or one that
was there. -/
theorem of_mem_markNotified {store : Store} {id : DisputeId} {now : Int} {later : Dispute}
    (h : later ∈ (store.markNotified id now).disputes) :
    (later.disputeId = id ∧ later.lifecycle = .notified ∧ later.lastNotifiedAt = some now ∧
      ∃ row ∈ store.disputes, row.disputeId = id ∧ row.waits = true) ∨
    later ∈ store.disputes := by
  rw [Store.markNotified, Store.updateDisputes] at h
  obtain ⟨row, hrow, rfl⟩ := List.mem_map.1 h
  by_cases hpicked : (row.disputeId == id && row.waits) = true
  · left
    rw [if_pos (by exact hpicked)]
    obtain ⟨hid, hwaits⟩ := Bool.and_eq_true_iff.1 hpicked
    exact ⟨beq_iff_eq.1 hid, rfl, rfl, row, hrow, beq_iff_eq.1 hid, hwaits⟩
  · right
    rw [if_neg (by exact hpicked)]
    exact hrow

/-- Every row stays. -/
theorem mem_markNotified {store : Store} {id : DisputeId} {now : Int} {row : Dispute}
    (h : row ∈ store.disputes) :
    ∃ later ∈ (store.markNotified id now).disputes, later.disputeId = row.disputeId := by
  rw [Store.markNotified, Store.updateDisputes]
  refine ⟨_, List.mem_map_of_mem h, ?_⟩
  split <;> rfl

/-- A dispute whose notification was recorded is new no more. -/
theorem ne_new_of_markNotified {store : Store} {id : DisputeId} {now : Int} {later : Dispute}
    (h : later ∈ (store.markNotified id now).disputes) (hid : later.disputeId = id) :
    later.lifecycle ≠ .new := by
  rw [Store.markNotified, Store.updateDisputes] at h
  obtain ⟨row, -, rfl⟩ := List.mem_map.1 h
  split at hid
  · next hpicked =>
    rw [if_pos hpicked]
    intro hnew
    cases hnew
  · next hpicked =>
    rw [if_neg hpicked]
    intro hnew
    exact hpicked (by simp [hid, hnew])

/-- A dispute that still waits once its notification was recorded has its stamp. -/
theorem stamp_of_markNotified {store : Store} {id : DisputeId} {now : Int} {later : Dispute}
    (h : later ∈ (store.markNotified id now).disputes) (hid : later.disputeId = id)
    (hwaits : later.waits = true) : later.lastNotifiedAt = some now := by
  rw [Store.markNotified, Store.updateDisputes] at h
  obtain ⟨row, -, rfl⟩ := List.mem_map.1 h
  split at hid
  · next hpicked => rw [if_pos hpicked]
  · next hpicked =>
    rw [if_neg hpicked] at hwaits
    exact absurd (Bool.and_eq_true_iff.2 ⟨beq_iff_eq.2 hid, hwaits⟩) hpicked

/-- A stamp leaves the ids. -/
theorem markNotified_ids (store : Store) (id : DisputeId) (now : Int) :
    (store.markNotified id now).disputes.map Dispute.disputeId =
      store.disputes.map Dispute.disputeId := by
  rw [Store.markNotified, Store.updateDisputes, List.map_map]
  refine List.map_congr_left fun row _ => ?_
  rw [Function.comp_apply]
  split <;> rfl

end Serbero
