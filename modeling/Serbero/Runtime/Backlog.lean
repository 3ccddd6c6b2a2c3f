import Mathlib
import Serbero.Lib.LastOf
import Serbero.Runtime.Revisions

/-! # Which revision of a dispute is stored

Relays deliver the revisions of a dispute live, in any order and any number of times, and the
backlog sync applies the newest of each dispute. The live path keeps the first revision it sees of
the latest second; the sync breaks ties by the lowest event id. -/

namespace Serbero

open LastOf

/-! ## One revision -/

/-- The life cycle of a dispute that is first seen with this status. -/
def DisputeStatus.lifecycle : DisputeStatus → Lifecycle
  | .initiated => .new
  | .inProgress => .taken
  | _ => .resolved

/-- The order in which a dispute takes its statuses. -/
def DisputeStatus.rank : DisputeStatus → Nat
  | .initiated => 0
  | .inProgress => 1
  | _ => 2

namespace Lifecycle

/-- The stage of a dispute's life. -/
def stage : Lifecycle → Nat
  | new => 0
  | notified => 1
  | taken => 2
  | resolved => 3

/-- The life cycle with `notified` counted as `new`. -/
def unnotified : Lifecycle → Lifecycle
  | notified => new
  | other => other

/-- The life cycle that a newer revision sets, if it sets one. -/
def moved (lifecycle : Lifecycle) (status : DisputeStatus) : Option Lifecycle :=
  if status.isFinal then some resolved
  else if status = .inProgress then
    match lifecycle with
    | new | notified => some taken
    | taken | resolved => none
  else none

/-- The life cycle after a newer revision. -/
def revised (lifecycle : Lifecycle) (status : DisputeStatus) : Lifecycle :=
  (lifecycle.moved status).getD lifecycle

/-- A newer revision never moves the life cycle back. -/
theorem stage_le_revised (lifecycle : Lifecycle) (status : DisputeStatus) :
    lifecycle.stage ≤ (lifecycle.revised status).stage := by
  cases lifecycle <;> cases status <;> decide

/-- As long as statuses come in order, the life cycle is that of the newest one. -/
theorem unnotified_revised {lifecycle : Lifecycle} {before status : DisputeStatus}
    (h : lifecycle.unnotified = before.lifecycle) (hrank : before.rank ≤ status.rank) :
    (lifecycle.revised status).unnotified = status.lifecycle := by
  cases lifecycle <;> cases before <;> cases status <;> revert h hrank <;> decide

end Lifecycle

namespace Store

variable (store : Store)

/-- What a newer revision does to the rows of disputes besides their statuses. -/
theorem disputes_transition (dispute : DisputeEvent) (existing : Dispute) (now : Int) :
    (store.transition dispute existing now).2.disputes =
      store.withLifecycle dispute.disputeId (existing.lifecycle.moved dispute.status) now := by
  have hended : ∀ (mid : Store) state kind,
      (mid.endLiveSession dispute state kind now).disputes = mid.disputes := by
    intro mid state kind
    unfold endLiveSession
    split <;> rfl
  by_cases hfinal : dispute.status.isFinal = true
  · rw [store.transition_of_final hfinal, Lifecycle.moved.eq_def, if_pos hfinal, append_disputes,
      hended]
    rfl
  · rw [Lifecycle.moved.eq_def, if_neg hfinal]
    by_cases hprogress : dispute.status = .inProgress
    · have hover : (store.takeOver dispute now).disputes = store.disputes := by
        unfold takeOver
        split
        · exact hended store _ _
        · rfl
      have hset : ((store.takeOver dispute now).setLifecycle dispute.disputeId .taken
          now).disputes = (store.setLifecycle dispute.disputeId .taken now).disputes := by
        simp only [setLifecycle, updateDisputes, hover]
      rw [if_pos hprogress, store.transition_of_inProgress hprogress]
      cases existing.lifecycle with
      | new => exact hset
      | notified => exact hset
      | taken => exact hover
      | resolved => exact hover
    · rw [if_neg hprogress]
      unfold transition
      cases hstatus : dispute.status <;> simp_all [DisputeStatus.isFinal, withLifecycle]

/-- A revision of an unknown dispute is stored as it is. -/
theorem dispute_record_of_none {dispute : DisputeEvent}
    (h : store.dispute dispute.disputeId = none) (now : Int) :
    ∃ row, (store.record dispute now).2.dispute dispute.disputeId = some row ∧
      row.status = dispute.status ∧ row.statusAt = dispute.revisionAt ∧
      row.lifecycle = dispute.status.lifecycle := by
  have hinserted : (store.insertDisputeIfNew ⟨dispute.disputeId, dispute.initiator,
      dispute.status, dispute.revisionAt, now⟩).dispute dispute.disputeId =
      some ⟨dispute.disputeId, dispute.initiator, dispute.status, dispute.revisionAt, .new, now,
        none, now⟩ := by
    have hnone : (store.disputes.find? fun row => row.disputeId == dispute.disputeId) = none := h
    simp [insertDisputeIfNew, Store.dispute, List.find?_append, hnone]
  generalize hinsert : store.insertDisputeIfNew ⟨dispute.disputeId, dispute.initiator,
    dispute.status, dispute.revisionAt, now⟩ = inserted at hinserted
  have hrecord : (store.record dispute now).2.disputes =
      (if dispute.status = .initiated then inserted
        else inserted.setLifecycle dispute.disputeId
          (if dispute.status.isFinal then .resolved else .taken) now).disputes := by
    unfold record
    rw [h]
    simp only [hinsert, append_disputes]
    split <;> rfl
  rw [Store.dispute, hrecord]
  split
  · next hinitiated => exact ⟨_, hinserted, rfl, rfl, by rw [hinitiated]; rfl⟩
  · next hinitiated =>
    have hmoved := inserted.dispute_setLifecycle dispute.disputeId
      (if dispute.status.isFinal then .resolved else .taken) now
    rw [hinserted] at hmoved
    refine ⟨_, hmoved, rfl, rfl, ?_⟩
    cases hstatus : dispute.status <;> simp_all [DisputeStatus.isFinal, DisputeStatus.lifecycle]

/-- A revision newer than the stored one replaces its status and moves the life cycle. -/
theorem dispute_record_of_lt {dispute : DisputeEvent} {existing : Dispute}
    (h : store.dispute dispute.disputeId = some existing)
    (hlt : existing.statusAt < dispute.revisionAt) (now : Int) :
    ∃ row, (store.record dispute now).2.dispute dispute.disputeId = some row ∧
      row.status = dispute.status ∧ row.statusAt = dispute.revisionAt ∧
      row.lifecycle = existing.lifecycle.revised dispute.status := by
  have hid : existing.disputeId = dispute.disputeId := by simpa using List.find?_some h
  let applied := (store.updateDisputes (fun row => row.disputeId == dispute.disputeId) fun row =>
    { row with status := dispute.status, statusAt := dispute.revisionAt, updatedAt := now }).append
      ⟨dispute.disputeId, none, .statusChanged existing.status dispute.status, now⟩
  have happlied : applied.dispute dispute.disputeId = some { existing with
      status := dispute.status, statusAt := dispute.revisionAt, updatedAt := now } := by
    let change := fun row : Dispute =>
      { row with status := dispute.status, statusAt := dispute.revisionAt, updatedAt := now }
    have hrow : (store.updateDisputes (fun row => row.disputeId == dispute.disputeId)
        change).dispute dispute.disputeId = (store.dispute dispute.disputeId).map change :=
      store.dispute_updateDisputes_self (fun row => by rfl) dispute.disputeId
    rw [h] at hrow
    exact hrow
  have hrecord : (store.record dispute now).2 = (applied.transition dispute existing now).2 := by
    unfold record
    rw [h]
    simp only [applyStatus, h, if_pos hlt]
    rfl
  rw [hrecord, Store.dispute, disputes_transition, Lifecycle.revised]
  cases existing.lifecycle.moved dispute.status with
  | none => exact ⟨_, happlied, rfl, rfl, rfl⟩
  | some lifecycle =>
    have hmoved := applied.dispute_setLifecycle dispute.disputeId lifecycle now
    rw [happlied] at hmoved
    exact ⟨_, hmoved, rfl, rfl, rfl⟩

/-- A revision that is not newer changes nothing. -/
theorem record_of_le {dispute : DisputeEvent} {existing : Dispute}
    (h : store.dispute dispute.disputeId = some existing)
    (hle : dispute.revisionAt ≤ existing.statusAt) (now : Int) :
    store.record dispute now = (.unchanged, store) := by
  unfold record
  rw [h]
  simp only [applyStatus, h, if_neg hle.not_gt]

/-- A notification stamps the row of a dispute that waits for a solver. -/
theorem dispute_markNotified_eq (notified id : DisputeId) (now : Int) :
    (store.markNotified notified now).dispute id = (store.dispute id).map fun row =>
      if row.disputeId == notified && (row.lifecycle == .new || row.lifecycle == .notified) then
        { row with lifecycle := .notified, lastNotifiedAt := some now, updatedAt := now }
      else row := by
  apply dispute_updateDisputes
  intro row
  rfl

/-- A notification changes neither the status nor its time, and moves the life cycle from `new` to
`notified` at most. -/
theorem dispute_markNotified (notified id : DisputeId) (now : Int) {row : Dispute}
    (h : store.dispute id = some row) :
    ∃ later, (store.markNotified notified now).dispute id = some later ∧
      later.status = row.status ∧ later.statusAt = row.statusAt ∧
      later.lifecycle.unnotified = row.lifecycle.unnotified ∧
      row.lifecycle.stage ≤ later.lifecycle.stage := by
  rw [dispute_markNotified_eq, h, Option.map_some]
  refine ⟨_, rfl, ?_⟩
  split
  · next hpicked =>
    cases hlifecycle : row.lifecycle <;>
      simp_all [Lifecycle.unnotified, Lifecycle.stage]
  · exact ⟨rfl, rfl, rfl, le_rfl⟩

end Store

/-! ## Deliveries -/

/-- What the notifier does to a dispute's row. -/
inductive NotifierStep
  /-- A revision is delivered. -/
  | deliver (dispute : DisputeEvent) (now : Int)
  /-- A solver was told about a dispute. -/
  | notified (id : DisputeId) (now : Int)

/-- The revision a step delivers. -/
def NotifierStep.delivered : NotifierStep → Option DisputeEvent
  | deliver dispute _ => some dispute
  | notified _ _ => none

namespace Store

/-- The store after one step of the notifier. -/
def notifierStep (store : Store) : NotifierStep → Store
  | .deliver dispute now => (store.record dispute now).2
  | .notified id now => store.markNotified id now

/-- The store after the notifier's steps. -/
def notifierSteps (store : Store) (steps : List NotifierStep) : Store :=
  steps.foldl notifierStep store

variable {store : Store} {id : DisputeId}

/-- **One step** keeps the row, and never moves its life cycle back. -/
theorem stage_le_notifierStep (step : NotifierStep) {row : Dispute}
    (h : store.dispute id = some row)
    (hsame : ∀ dispute, step.delivered = some dispute → dispute.disputeId = id) :
    ∃ later, (store.notifierStep step).dispute id = some later ∧
      row.lifecycle.stage ≤ later.lifecycle.stage := by
  cases step with
  | deliver dispute now =>
    obtain rfl := hsame dispute rfl
    by_cases hlt : row.statusAt < dispute.revisionAt
    · obtain ⟨later, hlater, -, -, hlifecycle⟩ := store.dispute_record_of_lt h hlt now
      exact ⟨later, hlater, hlifecycle ▸ row.lifecycle.stage_le_revised dispute.status⟩
    · refine ⟨row, ?_, le_rfl⟩
      rw [notifierStep, store.record_of_le h (not_lt.mp hlt)]
      exact h
  | notified notified now =>
    obtain ⟨later, hlater, -, -, -, hstage⟩ := store.dispute_markNotified notified id now h
    exact ⟨later, hlater, hstage⟩

/-- **All steps** keep the row, and never move its life cycle back. -/
theorem stage_le_notifierSteps (steps : List NotifierStep) {row : Dispute}
    (h : store.dispute id = some row)
    (hsame : ∀ dispute ∈ steps.filterMap NotifierStep.delivered, dispute.disputeId = id) :
    ∃ later, (store.notifierSteps steps).dispute id = some later ∧
      row.lifecycle.stage ≤ later.lifecycle.stage := by
  induction steps generalizing store row with
  | nil => exact ⟨row, h, le_rfl⟩
  | cons step rest ih =>
    obtain ⟨mid, hmid, hstage⟩ := stage_le_notifierStep step h fun dispute hdispute =>
      hsame dispute (List.mem_filterMap.mpr ⟨step, List.mem_cons_self, hdispute⟩)
    obtain ⟨later, hlater, hstage'⟩ := ih hmid fun dispute hdispute => by
      obtain ⟨other, hother, hdelivers⟩ := List.mem_filterMap.mp hdispute
      exact hsame dispute (List.mem_filterMap.mpr ⟨other, List.mem_cons_of_mem _ hother, hdelivers⟩)
    exact ⟨later, hlater, hstage.trans hstage'⟩

/-- **What is stored.** Of a dispute that was unknown before, the row holds the first delivered of
the revisions with the latest time. -/
theorem dispute_notifierSteps (steps : List NotifierStep) (hnew : store.dispute id = none)
    (hsame : ∀ dispute ∈ steps.filterMap NotifierStep.delivered, dispute.disputeId = id) :
    ((store.notifierSteps steps).dispute id).map (fun row => (row.status, row.statusAt)) =
      ((steps.filterMap NotifierStep.delivered).argmax DisputeEvent.revisionAt).map
        fun dispute => (dispute.status, dispute.revisionAt) := by
  induction steps using List.reverseRecOn with
  | nil =>
    rw [notifierSteps, List.foldl_nil, hnew]
    rfl
  | append_singleton steps step ih =>
    have ih := ih fun dispute hdispute => hsame dispute (by
      rw [List.filterMap_append]
      exact List.mem_append_left _ hdispute)
    have hstep : store.notifierSteps (steps ++ [step]) =
        (store.notifierSteps steps).notifierStep step := List.foldl_concat ..
    rw [hstep, List.filterMap_append]
    generalize store.notifierSteps steps = mid at ih
    cases step with
    -- A stamp changes neither the status nor its time.
    | notified notified now =>
      rw [show [NotifierStep.notified notified now].filterMap NotifierStep.delivered = [] from rfl,
        List.append_nil, ← ih]
      cases hrow : mid.dispute id with
      | none =>
        rw [notifierStep, dispute_markNotified_eq, hrow]
        rfl
      | some row =>
        obtain ⟨later, hlater, hstatus, hstatusAt, -⟩ :=
          mid.dispute_markNotified notified id now hrow
        rw [notifierStep, hlater, Option.map_some, Option.map_some, hstatus, hstatusAt]
    | deliver dispute now =>
      obtain rfl : dispute.disputeId = id := hsame dispute (by simp [NotifierStep.delivered])
      rw [show [NotifierStep.deliver dispute now].filterMap NotifierStep.delivered = [dispute]
        from rfl, List.argmax_concat]
      -- The newest revision so far is the stored one: a later one replaces it, no other does.
      cases hkept : (steps.filterMap NotifierStep.delivered).argmax DisputeEvent.revisionAt with
      | none =>
        rw [hkept, Option.map_none, Option.map_eq_none_iff] at ih
        obtain ⟨row, hrow, hstatus, hstatusAt, -⟩ := mid.dispute_record_of_none ih now
        rw [notifierStep, hrow, Option.map_some, hstatus, hstatusAt]
        rfl
      | some kept =>
        rw [hkept, Option.map_some, Option.map_eq_some_iff] at ih
        obtain ⟨row, hrow, hstanding⟩ := ih
        obtain ⟨hstatus, hstatusAt⟩ := Prod.mk.inj hstanding
        by_cases hlt : kept.revisionAt < dispute.revisionAt
        · obtain ⟨later, hlater, hstatus, hstatusAt, -⟩ :=
            mid.dispute_record_of_lt hrow (hstatusAt ▸ hlt) now
          simp only [hlt, if_true]
          rw [notifierStep, hlater, Option.map_some, hstatus, hstatusAt]
          rfl
        · simp only [hlt, if_false]
          rw [notifierStep, mid.record_of_le hrow (hstatusAt ▸ not_lt.mp hlt), hrow,
            Option.map_some, hstanding]
          rfl

end Store

/-! ## Convergence -/

/-- The revisions of a dispute whose statuses come in order. -/
structure DisputeHistory where
  disputeId : DisputeId
  revisions : List DisputeEvent
  same : ∀ dispute ∈ revisions, dispute.disputeId = disputeId
  times : ∀ a ∈ revisions, ∀ b ∈ revisions, a.revisionAt = b.revisionAt → a = b
  ranked : ∀ a ∈ revisions, ∀ b ∈ revisions, a.revisionAt ≤ b.revisionAt →
    a.status.rank ≤ b.status.rank

namespace DisputeHistory

variable (history : DisputeHistory)

/-- Every revision is delivered, in some order, and nothing else is. -/
def DeliveredBy (steps : List NotifierStep) : Prop :=
  ∀ dispute, dispute ∈ steps.filterMap NotifierStep.delivered ↔ dispute ∈ history.revisions

variable {history} {store : Store}

/-- As long as the statuses come in order, the life cycle is that of the stored status. -/
theorem unnotified_notifierSteps (steps : List NotifierStep)
    (hnew : store.dispute history.disputeId = none)
    (hsteps : ∀ dispute ∈ steps.filterMap NotifierStep.delivered, dispute ∈ history.revisions)
    {row : Dispute} (h : (store.notifierSteps steps).dispute history.disputeId = some row) :
    row.lifecycle.unnotified = row.status.lifecycle := by
  induction steps using List.reverseRecOn generalizing row with
  | nil =>
    rw [Store.notifierSteps, List.foldl_nil, hnew] at h
    cases h
  | append_singleton steps step ih =>
    have hsteps' : ∀ dispute ∈ steps.filterMap NotifierStep.delivered,
        dispute ∈ history.revisions := fun dispute hdispute => hsteps dispute (by
      rw [List.filterMap_append]
      exact List.mem_append_left _ hdispute)
    have hkept := Store.dispute_notifierSteps steps hnew fun dispute hdispute =>
      history.same dispute (hsteps' dispute hdispute)
    have ih : ∀ row, (store.notifierSteps steps).dispute history.disputeId = some row →
        row.lifecycle.unnotified = row.status.lifecycle := fun row hrow => ih hsteps' hrow
    have hstep : store.notifierSteps (steps ++ [step]) =
        (store.notifierSteps steps).notifierStep step := List.foldl_concat ..
    rw [hstep] at h
    generalize store.notifierSteps steps = mid at hkept ih h
    cases step with
    | notified notified now =>
      cases hrow : mid.dispute history.disputeId with
      | none =>
        rw [Store.notifierStep, Store.dispute_markNotified_eq, hrow] at h
        cases h
      | some before =>
        obtain ⟨later, hlater, hstatus, -, hlifecycle, -⟩ :=
          mid.dispute_markNotified notified history.disputeId now hrow
        rw [Store.notifierStep, hlater, Option.some.injEq] at h
        rw [← h, hlifecycle, hstatus]
        exact ih before hrow
    | deliver dispute now =>
      have hmem : dispute ∈ history.revisions := hsteps dispute (by
        simp [NotifierStep.delivered])
      have hid := history.same dispute hmem
      rw [Store.notifierStep, ← hid] at h
      rw [← hid] at hkept ih
      cases hrow : mid.dispute dispute.disputeId with
      | none =>
        obtain ⟨later, hlater, hstatus, -, hlifecycle⟩ := mid.dispute_record_of_none hrow now
        rw [hlater, Option.some.injEq] at h
        rw [← h, hlifecycle, hstatus]
        cases dispute.status <;> rfl
      | some before =>
        by_cases hlt : before.statusAt < dispute.revisionAt
        · obtain ⟨later, hlater, hstatus, -, hlifecycle⟩ := mid.dispute_record_of_lt hrow hlt now
          rw [hlater, Option.some.injEq] at h
          rw [← h, hlifecycle, hstatus]
          -- The stored status is that of an earlier revision.
          rw [hrow, Option.map_some, eq_comm, Option.map_eq_some_iff] at hkept
          obtain ⟨kept, hargmax, hstanding⟩ := hkept
          obtain ⟨hkeptStatus, hkeptAt⟩ := Prod.mk.inj hstanding
          refine Lifecycle.unnotified_revised (ih before hrow) ?_
          rw [← hkeptStatus]
          refine history.ranked kept (hsteps' kept (List.argmax_mem hargmax)) dispute hmem ?_
          rw [hkeptAt]
          exact hlt.le
        · rw [mid.record_of_le hrow (not_lt.mp hlt), hrow, Option.some.injEq] at h
          rw [← h]
          exact ih before hrow

/-- Two orders of the same revisions have the same newest one. -/
theorem argmax_eq {steps steps' : List NotifierStep} (h : history.DeliveredBy steps)
    (h' : ∀ dispute, dispute ∈ steps'.filterMap NotifierStep.delivered →
      dispute ∈ history.revisions)
    (hnewest : ∀ dispute ∈ history.revisions,
      (∀ other ∈ history.revisions, other.revisionAt ≤ dispute.revisionAt) →
        dispute ∈ steps'.filterMap NotifierStep.delivered) :
    (steps.filterMap NotifierStep.delivered).argmax DisputeEvent.revisionAt =
      (steps'.filterMap NotifierStep.delivered).argmax DisputeEvent.revisionAt := by
  cases hkept : (steps.filterMap NotifierStep.delivered).argmax DisputeEvent.revisionAt with
  | none =>
    have hnil := List.argmax_eq_none.mp hkept
    rw [eq_comm, List.argmax_eq_none, List.eq_nil_iff_forall_not_mem]
    intro dispute hdispute
    have := (h dispute).mpr (h' dispute hdispute)
    rw [hnil] at this
    exact List.not_mem_nil this
  | some kept =>
    have hmem : kept ∈ history.revisions := (h kept).mp (List.argmax_mem hkept)
    have htop : ∀ other ∈ history.revisions, other.revisionAt ≤ kept.revisionAt :=
      fun other hother => List.le_of_mem_argmax ((h other).mpr hother) hkept
    have hkept' := hnewest kept hmem htop
    cases hother : (steps'.filterMap NotifierStep.delivered).argmax DisputeEvent.revisionAt with
    | none =>
      rw [List.argmax_eq_none.mp hother] at hkept'
      exact absurd hkept' List.not_mem_nil
    | some other =>
      have hotherMem := h' other (List.argmax_mem hother)
      have hle := List.le_of_mem_argmax hkept' hother
      rw [history.times kept hmem other hotherMem (le_antisymm hle (htop other hotherMem))]

end DisputeHistory

/-- The status, its time and the life cycle, with `notified` counted as `new`. -/
def Dispute.standing (row : Dispute) : DisputeStatus × Int × Lifecycle :=
  (row.status, row.statusAt, row.lifecycle.unnotified)

/-- The row of a dispute with a history stands where the newest delivered revision puts it. -/
theorem DisputeHistory.standing_eq {history : DisputeHistory} {store : Store}
    (steps : List NotifierStep) (hnew : store.dispute history.disputeId = none)
    (hsteps : ∀ dispute ∈ steps.filterMap NotifierStep.delivered, dispute ∈ history.revisions) :
    ((store.notifierSteps steps).dispute history.disputeId).map Dispute.standing =
      ((steps.filterMap NotifierStep.delivered).argmax DisputeEvent.revisionAt).map
        fun dispute => (dispute.status, dispute.revisionAt, dispute.status.lifecycle) := by
  have hkept := Store.dispute_notifierSteps steps hnew fun dispute hdispute =>
    history.same dispute (hsteps dispute hdispute)
  have hlifecycle : ∀ row, (store.notifierSteps steps).dispute history.disputeId = some row →
      row.lifecycle.unnotified = row.status.lifecycle :=
    fun row hrow => unnotified_notifierSteps steps hnew hsteps hrow
  cases hrow : (store.notifierSteps steps).dispute history.disputeId with
  | none =>
    rw [hrow, Option.map_none, eq_comm, Option.map_eq_none_iff] at hkept
    rw [hkept]
    rfl
  | some row =>
    rw [hrow, Option.map_some, eq_comm, Option.map_eq_some_iff] at hkept
    obtain ⟨kept, hargmax, hstanding⟩ := hkept
    obtain ⟨hstatus, hstatusAt⟩ := Prod.mk.inj hstanding
    rw [hargmax, Option.map_some, Option.map_some, Dispute.standing, hlifecycle row hrow, hstatus,
      hstatusAt]

/-! ## The backlog -/

/-- A dispute event as a relay stores it. -/
structure RelayEvent where
  id : Nat
  dispute : DisputeEvent
  deriving DecidableEq, Repr

/-- Newest follows NIP-01: the later `created_at`, then the lowest id. -/
def RelayEvent.rank (event : RelayEvent) : Int ×ₗ Natᵒᵈ :=
  toLex (event.dispute.revisionAt, OrderDual.toDual event.id)

/-- Keeps an event if its dispute has none yet, or an older one. -/
def keepNewest (newest : List RelayEvent) (event : RelayEvent) : List RelayEvent :=
  match newest.find? fun kept => kept.dispute.disputeId == event.dispute.disputeId with
  | none => newest ++ [event]
  | some kept =>
    if kept.rank < event.rank then
      newest.map fun row => if row.dispute.disputeId == event.dispute.disputeId then event else row
    else newest

/-- The newest revision of each dispute, oldest first. -/
def newestRevisions (events : List RelayEvent) : List RelayEvent :=
  (events.foldl keepNewest []).insertionSort fun a b =>
    toLex (a.dispute.revisionAt, a.id) ≤ toLex (b.dispute.revisionAt, b.id)

/-- Applies the newest revision of each dispute. -/
def Store.syncBacklog (store : Store) (events : List RelayEvent) (now : Int) : Store :=
  store.notifierSteps ((newestRevisions events).map fun event => .deliver event.dispute now)

/-- Of one dispute's events, the first of the newest is kept. -/
theorem newestRevisions_eq {events : List RelayEvent} {id : DisputeId}
    (hsame : ∀ event ∈ events, event.dispute.disputeId = id) :
    newestRevisions events = (events.argmax RelayEvent.rank).toList := by
  have hfold : events.foldl keepNewest [] = (events.argmax RelayEvent.rank).toList := by
    induction events using List.reverseRecOn with
    | nil => rfl
    | append_singleton events event ih =>
      have hevent := hsame event (List.mem_append_right _ List.mem_cons_self)
      rw [List.foldl_concat, ih fun other hother => hsame other (List.mem_append_left _ hother),
        List.argmax_concat]
      cases hkept : events.argmax RelayEvent.rank with
      | none => rfl
      | some kept =>
        have hid : kept.dispute.disputeId = event.dispute.disputeId :=
          (hsame kept (List.mem_append_left _ (List.argmax_mem hkept))).trans hevent.symm
        simp only [keepNewest, Option.toList_some, List.find?_cons, hid, beq_self_eq_true,
          List.map_cons, List.map_nil, if_true]
        split <;> rfl
  rw [newestRevisions, hfold]
  cases events.argmax RelayEvent.rank <;> rfl

/-- What the sync delivers. -/
theorem delivered_syncBacklog (events : List RelayEvent) (now : Int) :
    (events.map fun event => NotifierStep.deliver event.dispute now).filterMap
      NotifierStep.delivered = events.map RelayEvent.dispute := by
  induction events with
  | nil => rfl
  | cons event rest ih =>
    rw [List.map_cons, List.filterMap_cons, ih]
    rfl

/-- **Dispute records converge.** For the revisions of one dispute with distinct times and statuses
in order, any two orders of delivery and the backlog sync alone all leave the same status, status
time and life cycle; and along any delivery the life cycle never moves back. -/
theorem records_converge (history : DisputeHistory) {store : Store}
    (hnew : store.dispute history.disputeId = none) {steps steps' : List NotifierStep}
    (hsteps : history.DeliveredBy steps) (hsteps' : history.DeliveredBy steps') :
    ((store.notifierSteps steps).dispute history.disputeId).map Dispute.standing =
        ((store.notifierSteps steps').dispute history.disputeId).map Dispute.standing ∧
    (∀ before between after, steps = before ++ between ++ after → ∀ row,
      (store.notifierSteps before).dispute history.disputeId = some row → ∃ later,
        (store.notifierSteps (before ++ between)).dispute history.disputeId = some later ∧
          row.lifecycle.stage ≤ later.lifecycle.stage) ∧
    ∀ events : List RelayEvent,
      (∀ dispute, dispute ∈ events.map RelayEvent.dispute ↔ dispute ∈ history.revisions) →
        ∀ now, ((store.syncBacklog events now).dispute history.disputeId).map Dispute.standing =
          ((store.notifierSteps steps).dispute history.disputeId).map Dispute.standing := by
  have hstanding := history.standing_eq steps hnew fun dispute => (hsteps dispute).mp
  refine ⟨?_, ?_, ?_⟩
  · rw [hstanding, history.standing_eq steps' hnew fun dispute => (hsteps' dispute).mp,
      history.argmax_eq hsteps (fun dispute => (hsteps' dispute).mp) fun dispute hmem _ =>
        (hsteps' dispute).mpr hmem]
  · rintro before between after rfl row hrow
    have hrest := Store.stage_le_notifierSteps between hrow fun dispute hdispute =>
      history.same dispute ((hsteps dispute).mp (by
        rw [List.filterMap_append, List.filterMap_append]
        exact List.mem_append_left _ (List.mem_append_right _ hdispute)))
    rw [Store.notifierSteps, List.foldl_append]
    exact hrest
  · intro events hevents now
    have hsame : ∀ event ∈ events, event.dispute.disputeId = history.disputeId :=
      fun event hevent => history.same _ ((hevents _).mp (List.mem_map_of_mem hevent))
    have hdelivered := delivered_syncBacklog (newestRevisions events) now
    have hmem : ∀ event ∈ newestRevisions events, event ∈ events := by
      intro event hevent
      rw [newestRevisions_eq hsame, Option.mem_toList] at hevent
      exact List.argmax_mem hevent
    have hsync : ∀ dispute ∈ ((newestRevisions events).map fun event =>
        NotifierStep.deliver event.dispute now).filterMap NotifierStep.delivered,
          dispute ∈ history.revisions := by
      intro dispute hdispute
      rw [hdelivered] at hdispute
      obtain ⟨event, hevent, rfl⟩ := List.mem_map.mp hdispute
      exact (hevents _).mp (List.mem_map_of_mem (hmem event hevent))
    rw [Store.syncBacklog, history.standing_eq _ hnew hsync, hstanding,
      history.argmax_eq hsteps hsync]
    intro dispute hdispute htop
    -- The newest revision is the one the sync keeps.
    rw [hdelivered]
    obtain ⟨event, hevent, rfl⟩ := List.mem_map.mp ((hevents dispute).mpr hdispute)
    cases hkept : events.argmax RelayEvent.rank with
    | none =>
      rw [List.argmax_eq_none.mp hkept] at hevent
      exact absurd hevent List.not_mem_nil
    | some kept =>
      have hkeptMem := List.argmax_mem hkept
      have hrank := List.le_of_mem_argmax hevent hkept
      have hle : event.dispute.revisionAt ≤ kept.dispute.revisionAt :=
        (Prod.Lex.le_iff.mp hrank).elim le_of_lt fun h => h.1.le
      have hkeptHistory := (hevents _).mp (List.mem_map_of_mem hkeptMem)
      rw [history.times _ hdispute _ hkeptHistory (le_antisymm hle (htop _ hkeptHistory)),
        newestRevisions_eq hsame, hkept]
      exact List.mem_map_of_mem List.mem_cons_self

/-- A dispute that a solver takes and its parties resolve. -/
def releasedHistory : DisputeHistory :=
  { disputeId := 1
    revisions :=
      [⟨1, .buyer, .initiated, 100, 0, false⟩, ⟨1, .buyer, .inProgress, 200, 1, false⟩,
        ⟨1, .buyer, .released, 300, 2, false⟩]
    same := by decide
    times := by decide
    ranked := by decide }

/-- The revisions as the node published them, and the last one first. -/
def publishedOrder : List NotifierStep :=
  releasedHistory.revisions.map fun dispute => .deliver dispute 400

@[inherit_doc publishedOrder]
def reversedOrder : List NotifierStep := publishedOrder.reverse

/-- Two orders of the example's revisions. -/
theorem records_converge_released :
    ((Store.empty.notifierSteps publishedOrder).dispute 1).map Dispute.standing =
        ((Store.empty.notifierSteps reversedOrder).dispute 1).map Dispute.standing ∧
    (∀ before between after, publishedOrder = before ++ between ++ after → ∀ row,
      (Store.empty.notifierSteps before).dispute 1 = some row → ∃ later,
        (Store.empty.notifierSteps (before ++ between)).dispute 1 = some later ∧
          row.lifecycle.stage ≤ later.lifecycle.stage) ∧
    ∀ events : List RelayEvent,
      (∀ dispute, dispute ∈ events.map RelayEvent.dispute ↔
        dispute ∈ releasedHistory.revisions) →
        ∀ now, ((Store.empty.syncBacklog events now).dispute 1).map Dispute.standing =
          ((Store.empty.notifierSteps publishedOrder).dispute 1).map Dispute.standing :=
  records_converge releasedHistory rfl
    (fun _ => by
      rw [show publishedOrder.filterMap NotifierStep.delivered = releasedHistory.revisions
        from rfl])
    (fun _ => by
      rw [show reversedOrder.filterMap NotifierStep.delivered = releasedHistory.revisions.reverse
        from rfl, List.mem_reverse])

/-! ## Revisions of the same second -/

/-- The events of one dispute that the relays store. -/
structure DisputeBacklog where
  disputeId : DisputeId
  events : List RelayEvent
  same : ∀ event ∈ events, event.dispute.disputeId = disputeId

/-- **When the live path and the sync agree.** Of a dispute that was unknown before, let any of its
revisions be delivered live and then all of them synced. The status stored is that of the newest
revision exactly when the first revision delivered live of that second, if there is one, has the
same status. -/
theorem sync_agrees_iff (backlog : DisputeBacklog) {store : Store}
    (hnew : store.dispute backlog.disputeId = none) {live : List NotifierStep}
    (hlive : ∀ dispute ∈ live.filterMap NotifierStep.delivered,
      dispute ∈ backlog.events.map RelayEvent.dispute)
    {newest : RelayEvent} (hnewest : newest ∈ newestRevisions backlog.events) (now : Int) :
    (((store.notifierSteps live).syncBacklog backlog.events now).dispute backlog.disputeId).map
        Dispute.status = some newest.dispute.status ↔
      ∀ first, ((live.filterMap NotifierStep.delivered).find? fun dispute =>
          decide (dispute.revisionAt = newest.dispute.revisionAt)) = some first →
        first.status = newest.dispute.status := by
  have hnewestEq := newestRevisions_eq backlog.same
  rw [hnewestEq, Option.mem_toList] at hnewest
  rw [hnewest] at hnewestEq
  have htop : ∀ dispute ∈ live.filterMap NotifierStep.delivered,
      dispute.revisionAt ≤ newest.dispute.revisionAt := by
    intro dispute hdispute
    obtain ⟨event, hevent, rfl⟩ := List.mem_map.mp (hlive dispute hdispute)
    have hrank := List.le_of_mem_argmax hevent hnewest
    exact (Prod.Lex.le_iff.mp hrank).elim le_of_lt fun h => h.1.le
  -- The sync delivers the newest revision after the live ones.
  have hsteps : (store.notifierSteps live).syncBacklog backlog.events now =
      store.notifierSteps (live ++ [.deliver newest.dispute now]) := by
    rw [Store.syncBacklog, hnewestEq, Store.notifierSteps, Store.notifierSteps, Store.notifierSteps,
      List.foldl_append]
    rfl
  have hdelivered : (live ++ [NotifierStep.deliver newest.dispute now]).filterMap
      NotifierStep.delivered = live.filterMap NotifierStep.delivered ++ [newest.dispute] := by
    rw [List.filterMap_append]
    rfl
  have hsame : ∀ dispute ∈ live.filterMap NotifierStep.delivered ++ [newest.dispute],
      dispute.disputeId = backlog.disputeId := by
    intro dispute hdispute
    rcases List.mem_append.mp hdispute with hold | hlast
    · obtain ⟨event, hevent, rfl⟩ := List.mem_map.mp (hlive dispute hold)
      exact backlog.same event hevent
    · rw [List.mem_singleton.mp hlast]
      exact backlog.same newest (List.argmax_mem hnewest)
  have hstored : ((store.notifierSteps (live ++ [.deliver newest.dispute now])).dispute
      backlog.disputeId).map (fun row => (row.status, row.statusAt)) = _ :=
    Store.dispute_notifierSteps _ hnew (hdelivered ▸ hsame)
  rw [hdelivered, List.argmax_concat] at hstored
  rw [hsteps]
  -- The status stored is the first component of what the row holds.
  have hstatus : ∀ {row : Option Dispute} {kept : DisputeEvent},
      row.map (fun row => (row.status, row.statusAt)) = some (kept.status, kept.revisionAt) →
        row.map Dispute.status = some kept.status := by
    intro row kept hrow
    obtain ⟨found, rfl, hfound⟩ := Option.map_eq_some_iff.mp hrow
    rw [Option.map_some, (Prod.mk.inj hfound).1]
  cases hkept : (live.filterMap NotifierStep.delivered).argmax DisputeEvent.revisionAt with
  | none =>
    rw [hkept] at hstored
    rw [hstatus hstored, List.argmax_eq_none.mp hkept]
    simp
  | some kept =>
    rw [hkept] at hstored
    simp only at hstored
    have hkeptLe := htop kept (List.argmax_mem hkept)
    by_cases hlt : kept.revisionAt < newest.dispute.revisionAt
    · rw [if_pos hlt] at hstored
      rw [hstatus hstored]
      refine ⟨fun _ first hfirst => ?_, fun _ => rfl⟩
      -- No revision of that second was delivered live.
      have hmem := List.mem_of_find?_eq_some hfirst
      have hat : first.revisionAt = newest.dispute.revisionAt := by
        simpa using List.find?_some hfirst
      have hle := List.le_of_mem_argmax hmem hkept
      rw [hat] at hle
      exact absurd hlt hle.not_gt
    · rw [if_neg hlt] at hstored
      rw [hstatus hstored]
      have hat : newest.dispute.revisionAt = kept.revisionAt :=
        le_antisymm (not_lt.mp hlt) hkeptLe
      rw [hat, find?_eq_of_argmax hkept, Option.some.injEq]
      exact ⟨fun heq first hfirst => by rw [← Option.some.inj hfirst, heq],
        fun heq => heq kept rfl⟩

/-- A take and a settlement of the same second, the settlement with the lower id. -/
def tiedBacklog : DisputeBacklog :=
  { disputeId := 1
    events :=
      [⟨2, ⟨1, .buyer, .inProgress, 200, 0, false⟩⟩, ⟨1, ⟨1, .buyer, .settled, 200, 1, false⟩⟩]
    same := by decide }

/-- The settlement is delivered live, and the sync follows. -/
theorem sync_agrees_settled :
    ((((Store.empty.notifierSteps [.deliver ⟨1, .buyer, .settled, 200, 1, false⟩ 300]).syncBacklog
        tiedBacklog.events 400).dispute 1).map Dispute.status = some .settled ↔
      ∀ first, (([.deliver ⟨1, .buyer, .settled, 200, 1, false⟩ 300] :
          List NotifierStep).filterMap NotifierStep.delivered).find? (fun dispute =>
            decide (dispute.revisionAt = 200)) = some first → first.status = .settled) :=
  have hnewest : (⟨1, ⟨1, .buyer, .settled, 200, 1, false⟩⟩ : RelayEvent) ∈
      newestRevisions tiedBacklog.events := by decide +kernel
  sync_agrees_iff tiedBacklog rfl (by decide) hnewest 400

/-- The take is delivered live, and the sync does not replace it by the settlement. -/
theorem not_sync_agrees :
    ¬∀ (backlog : DisputeBacklog) (live : List NotifierStep),
      (∀ dispute ∈ live.filterMap NotifierStep.delivered,
        dispute ∈ backlog.events.map RelayEvent.dispute) →
      ∀ newest ∈ newestRevisions backlog.events, ∀ now,
        (((Store.empty.notifierSteps live).syncBacklog backlog.events now).dispute
          backlog.disputeId).map Dispute.status = some newest.dispute.status := by
  intro agrees
  have := agrees tiedBacklog [.deliver ⟨1, .buyer, .inProgress, 200, 0, false⟩ 300] (by decide)
    ⟨1, ⟨1, .buyer, .settled, 200, 1, false⟩⟩ (by decide +kernel) 400
  revert this
  decide +kernel

end Serbero
