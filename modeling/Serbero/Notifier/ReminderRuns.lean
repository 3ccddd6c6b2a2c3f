import Serbero.Notifier.Reminders

/-! # Runs of the notifier

A first notification under way finds nothing recorded of its dispute, and a tick's notification is the
only one of its dispute under way: as long as no tick renews a first notification that is still being
sent, both stay true over every act, and the hook and the reminders follow from them. -/

namespace Serbero

/-! ## What an act does -/

namespace Notifier

variable {solvers : List Solver} {renotifyAfter : Int} {notifier : Notifier}

/-- What an act can leave, branch by branch. -/
inductive Acts (solvers : List Solver) (renotifyAfter : Int) (notifier : Notifier) :
    NotifierAct → Notifier → Prop
  | time {now : Int} (hclock : notifier.clock ≤ now) :
    Acts solvers renotifyAfter notifier (.time now) { notifier with clock := now }
  | handle (dispute : DisputeEvent) (now : Int) :
    Acts solvers renotifyAfter notifier (.handle dispute now) (notifier.handle solvers dispute now)
  /-- The last solver of a first notification answered. -/
  | firstOver {id : DisputeId} {result : Except String Unit} {store : Store} {broadcast : Broadcast}
      (hfirst : ∃ other ∈ notifier.firsts, other.disputeId = broadcast.disputeId)
      (hstore : store.disputes = notifier.store.disputes) :
    Acts solvers renotifyAfter notifier (.answered id result)
      (({ notifier with store := store } : Notifier).firstOver broadcast)
  /-- A first notification goes on to its next solver. -/
  | firstOn {id : DisputeId} {result : Except String Unit} {store : Store} {firsts : List Broadcast}
      (hids : firsts.map Broadcast.disputeId = notifier.firsts.map Broadcast.disputeId)
      (hstore : store.disputes = notifier.store.disputes) :
    Acts solvers renotifyAfter notifier (.answered id result)
      { notifier with store := store, firsts := firsts }
  | remind :
    Acts solvers renotifyAfter notifier .remind { notifier with
      tick := some ⟨notifier.clock,
        notifier.store.listAwaitingSolver (notifier.clock - renotifyAfter), none⟩ }
  /-- A tick with nothing left is over. -/
  | ended :
    Acts solvers renotifyAfter notifier .next { notifier with tick := none }
  /-- A tick leaves out a dispute that waits no more. -/
  | skipped {tick : ReminderTick} {due : Dispute} {rest : List Dispute}
      (htick : notifier.tick = some tick) (hidle : tick.sending = none)
      (hdue : tick.due = due :: rest) :
    Acts solvers renotifyAfter notifier .next
      { notifier with tick := some { tick with due := rest } }
  | begins {tick : ReminderTick} {due row : Dispute} {rest : List Dispute}
      (htick : notifier.tick = some tick) (hidle : tick.sending = none)
      (hdue : tick.due = due :: rest) (hcurrent : notifier.current due = some row) :
    Acts solvers renotifyAfter notifier .next (notifier.begin solvers tick row rest)
  /-- The last solver of a tick's notification answered. -/
  | reminderOver {result : Except String Unit} {tick : ReminderTick} {sending : Reminding}
      {store : Store} {broadcast : Broadcast} (htick : notifier.tick = some tick)
      (hsending : tick.sending = some sending) (hstore : store.disputes = notifier.store.disputes) :
    Acts solvers renotifyAfter notifier (.reminded result)
      (({ notifier with store := store } : Notifier).reminderOver tick sending broadcast)
  /-- A tick's notification goes on to its next solver. -/
  | reminderOn {result : Except String Unit} {tick : ReminderTick} {sending : Reminding}
      {store : Store} {broadcast : Broadcast} (htick : notifier.tick = some tick)
      (hsending : tick.sending = some sending) (hstore : store.disputes = notifier.store.disputes) :
    Acts solvers renotifyAfter notifier (.reminded result) { notifier with
      store := store
      tick := some { tick with sending := some { sending with broadcast := broadcast } } }
  | elsewhere {store : Store} (hstore : store.disputes = notifier.store.disputes) :
    Acts solvers renotifyAfter notifier (.elsewhere store) { notifier with store := store }

/-- An answer to a first notice ends its notification, or takes it to its next solver. -/
theorem acts_of_answered {id : DisputeId} {result : Except String Unit} {later : Notifier}
    (h : notifier.answered id result = some later) :
    notifier.Acts solvers renotifyAfter (.answered id result) later := by
  rw [answered] at h
  split at h
  · cases h
  · next broadcast hfind =>
    have hmem := List.mem_of_find?_eq_some hfind
    split at h
    · cases h
    · next store next hanswered =>
      obtain ⟨hdisputes, hid⟩ := Broadcast.answered_spec hanswered
      have hsame : broadcast.disputeId = id := by simpa using List.find?_some hfind
      dsimp only at h
      split at h
      · obtain rfl := Option.some.inj h
        exact .firstOver ⟨broadcast, hmem, hid.symm⟩ hdisputes
      · obtain rfl := Option.some.inj h
        refine .firstOn ?_ hdisputes
        rw [List.map_map]
        refine List.map_congr_left fun other _ => ?_
        rw [Function.comp_apply]
        split
        · next hother => exact hid.trans (hsame.trans (beq_iff_eq.1 hother).symm)
        · rfl

/-- A tick is over, or comes to its next dispute. -/
theorem acts_of_next {later : Notifier} (h : notifier.next solvers = some later) :
    notifier.Acts solvers renotifyAfter .next later := by
  rw [next] at h
  split at h
  · cases h
  · next tick htick =>
    split at h
    · cases h
    · next hsending =>
      have hidle : tick.sending = none := by simpa using hsending
      split at h
      · obtain rfl := Option.some.inj h
        exact .ended
      · next due rest hdue =>
        split at h
        · obtain rfl := Option.some.inj h
          exact .skipped htick hidle hdue
        · next row hcurrent =>
          obtain rfl := Option.some.inj h
          exact .begins htick hidle hdue hcurrent

/-- An answer to a tick's notice ends its notification, or takes it to its next solver. -/
theorem acts_of_reminded {result : Except String Unit} {later : Notifier}
    (h : notifier.reminded result = some later) :
    notifier.Acts solvers renotifyAfter (.reminded result) later := by
  rw [reminded] at h
  split at h
  · cases h
  · next tick htick =>
    split at h
    · cases h
    · next sending hsending =>
      split at h
      · cases h
      · next store broadcast hanswered =>
        obtain ⟨hdisputes, -⟩ := Broadcast.answered_spec hanswered
        dsimp only at h
        split at h
        · obtain rfl := Option.some.inj h
          exact .reminderOver htick hsending hdisputes
        · obtain rfl := Option.some.inj h
          exact .reminderOn htick hsending hdisputes

/-- **Every act** is one of these. -/
theorem acts_of_act {act : NotifierAct} {later : Notifier}
    (h : notifier.act solvers renotifyAfter act = some later) :
    notifier.Acts solvers renotifyAfter act later := by
  cases act with
  | time now =>
    rw [Notifier.act] at h
    split at h
    · next hclock =>
      obtain rfl := Option.some.inj h
      exact .time hclock
    · cases h
  | handle dispute now =>
    rw [Notifier.act] at h
    split at h
    · obtain rfl := Option.some.inj h
      exact .handle dispute now
    · cases h
  | answered id result => exact acts_of_answered h
  | remind =>
    rw [Notifier.act, Notifier.remind] at h
    split at h
    · cases h
    · obtain rfl := Option.some.inj h
      exact .remind
  | next => exact acts_of_next h
  | reminded result => exact acts_of_reminded h
  | elsewhere store =>
    rw [Notifier.act] at h
    split at h
    · next hstore =>
      obtain rfl := Option.some.inj h
      exact .elsewhere hstore
    · cases h

/-- The notification that a tick with a due dispute is about to begin. -/
theorem upcoming_next {tick : ReminderTick} {due row : Dispute} {rest : List Dispute}
    (htick : notifier.tick = some tick) (hdue : tick.due = due :: rest)
    (hcurrent : notifier.current due = some row) : notifier.upcoming .next = some (tick, row) := by
  rw [upcoming, htick, Option.bind_some, hdue, List.head?_cons, Option.bind_some, hcurrent]
  rfl

end Notifier

/-! ## The invariant -/

namespace Notifier

variable {solvers : List Solver} {renotifyAfter : Int}

/-- What a tick under way relies on: the reminders it may still send are far enough from the ones
that were delivered, and nobody else sends the notification it waits for. -/
structure TickInv (renotifyAfter : Int) (notifier : Notifier) (tick : ReminderTick) : Prop where
  now : tick.now ≤ notifier.clock
  newest : ∀ reminder ∈ notifier.reminders, reminder.tick ≤ tick.now
  nodup : (tick.due.map Dispute.disputeId).Nodup
  due : ∀ due ∈ tick.due, ∀ reminder ∈ notifier.reminders, reminder.disputeId = due.disputeId →
    reminder.tick + renotifyAfter ≤ tick.now
  begun : ∀ sending ∈ tick.sending, tick.now ≤ sending.begun ∧ sending.begun ≤ notifier.clock
  other : ∀ sending ∈ tick.sending, ∀ due ∈ tick.due, due.disputeId ≠ sending.row.disputeId
  stored : ∀ sending ∈ tick.sending, ∃ row ∈ notifier.store.disputes,
    row.disputeId = sending.row.disputeId
  alone : ∀ sending ∈ tick.sending, ∀ broadcast ∈ notifier.firsts,
    broadcast.disputeId ≠ sending.row.disputeId
  unhooked : ∀ sending ∈ tick.sending, sending.row.lifecycle = .new →
    sending.row.disputeId ∉ notifier.hooks
  spaced : ∀ sending ∈ tick.sending, ∀ reminder ∈ notifier.reminders,
    reminder.disputeId = sending.row.disputeId → reminder.tick + renotifyAfter ≤ tick.now

/-- What a first notification under way relies on: nothing was recorded for its dispute yet. -/
structure FirstInv (notifier : Notifier) (broadcast : Broadcast) : Prop where
  stored : ∃ row ∈ notifier.store.disputes, row.disputeId = broadcast.disputeId
  unstamped : ∀ row ∈ notifier.store.disputes, row.disputeId = broadcast.disputeId →
    row.lastNotifiedAt = none
  unhooked : broadcast.disputeId ∉ notifier.hooks
  unreminded : ∀ reminder ∈ notifier.reminders, reminder.disputeId ≠ broadcast.disputeId

structure Inv (renotifyAfter : Int) (notifier : Notifier) : Prop where
  ids : (notifier.store.disputes.map Dispute.disputeId).Nodup
  stamped : ∀ row ∈ notifier.store.disputes, row.lifecycle = .notified → row.lastNotifiedAt ≠ none
  firsts : (notifier.firsts.map Broadcast.disputeId).Nodup
  first : ∀ broadcast ∈ notifier.firsts, notifier.FirstInv broadcast
  hooks : notifier.hooks.Nodup
  hooked : ∀ id ∈ notifier.hooks, (∃ row ∈ notifier.store.disputes, row.disputeId = id) ∧
    ∀ row ∈ notifier.store.disputes, row.disputeId = id → row.lifecycle ≠ .new
  past : ∀ reminder ∈ notifier.reminders, reminder.tick ≤ reminder.begun ∧
    reminder.begun ≤ notifier.clock
  reminded : ∀ reminder ∈ notifier.reminders,
    (∃ row ∈ notifier.store.disputes, row.disputeId = reminder.disputeId) ∧
    ∀ row ∈ notifier.store.disputes, row.disputeId = reminder.disputeId → row.waits = true →
      ∃ at', row.lastNotifiedAt = some at' ∧ reminder.tick ≤ at'
  spaced : notifier.reminders.Pairwise fun first second =>
    first.disputeId = second.disputeId → first.tick + renotifyAfter ≤ second.tick
  begun : ∀ entry ∈ notifier.begun, ∃ row, entry.2.dispute entry.1 = some row ∧ row.waits = true
  tick : ∀ tick ∈ notifier.tick, notifier.TickInv renotifyAfter tick

variable {notifier : Notifier}

/-- What was recorded of a dispute is recorded of its row, so a new row has nothing recorded. -/
theorem Inv.unrecorded (h : notifier.Inv renotifyAfter) {id : DisputeId}
    (hnew : ∀ row ∈ notifier.store.disputes, row.disputeId ≠ id) :
    id ∉ notifier.hooks ∧ (∀ reminder ∈ notifier.reminders, reminder.disputeId ≠ id) ∧
      (∀ broadcast ∈ notifier.firsts, broadcast.disputeId ≠ id) ∧
      ∀ tick ∈ notifier.tick, ∀ sending ∈ tick.sending, sending.row.disputeId ≠ id := by
  refine ⟨fun hmem => ?_, fun reminder hmem heq => ?_, fun broadcast hmem heq => ?_,
    fun tick htick sending hsending heq => ?_⟩
  · obtain ⟨⟨row, hrow, hid⟩, -⟩ := h.hooked id hmem
    exact hnew row hrow hid
  · obtain ⟨⟨row, hrow, hid⟩, -⟩ := h.reminded reminder hmem
    exact hnew row hrow (hid.trans heq)
  · obtain ⟨row, hrow, hid⟩ := (h.first broadcast hmem).stored
    exact hnew row hrow (hid.trans heq)
  · obtain ⟨row, hrow, hid⟩ := (h.tick tick htick).stored sending hsending
    exact hnew row hrow (hid.trans heq)

/-- **Recording a revision** keeps everything recorded of the notifications true. -/
theorem Inv.revise (h : notifier.Inv renotifyAfter) {store : Store}
    (hrevises : Revises notifier.store.disputes store.disputes) :
    ({ notifier with store := store } : Notifier).Inv renotifyAfter := by
  have hkept : ∀ id, (∃ row ∈ notifier.store.disputes, row.disputeId = id) →
      ∃ row ∈ store.disputes, row.disputeId = id := by
    rintro id ⟨row, hrow, rfl⟩
    exact hrevises.kept row hrow
  exact {
    ids := hrevises.nodup h.ids
    stamped := by
      intro later hmem hnotified
      rcases hrevises.rows later hmem with ⟨row, hrow, -, hstamp, hsame | hgone⟩ | ⟨-, -, hnot⟩
      · rw [hstamp]
        exact h.stamped row hrow (hsame ▸ hnotified)
      -- A revision that ends the wait leaves no row that says it is notified.
      · rw [Dispute.waits, hnotified] at hgone
        cases hgone
      · exact absurd hnotified hnot
    firsts := h.firsts
    first := by
      intro broadcast hbroadcast
      have hfirst := h.first broadcast hbroadcast
      refine ⟨hkept _ hfirst.stored, ?_, hfirst.unhooked, hfirst.unreminded⟩
      intro later hmem hid
      rcases hrevises.rows later hmem with ⟨row, hrow, hsame, hstamp, -⟩ | ⟨-, hnone, -⟩
      · rw [hstamp]
        exact hfirst.unstamped row hrow (hsame.symm.trans hid)
      · exact hnone
    hooks := h.hooks
    hooked := by
      intro id hmem
      obtain ⟨hstored, hnot⟩ := h.hooked id hmem
      refine ⟨hkept id hstored, ?_⟩
      intro later hlater hid
      rcases hrevises.rows later hlater with ⟨row, hrow, hsame, -, hlifecycle | hgone⟩ | ⟨hnew, -⟩
      · rw [hlifecycle]
        exact hnot row hrow (hsame.symm.trans hid)
      · intro hlifecycle
        rw [Dispute.waits, hlifecycle] at hgone
        cases hgone
      -- Nothing is recorded of a row that was just added.
      · exact absurd hmem (h.unrecorded (hid ▸ hnew)).1
    past := h.past
    reminded := by
      intro reminder hmem
      obtain ⟨hstored, hstamp⟩ := h.reminded reminder hmem
      refine ⟨hkept _ hstored, ?_⟩
      intro later hlater hid hwaits
      rcases hrevises.rows later hlater with
        ⟨row, hrow, hsame, hat, hlifecycle | hgone⟩ | ⟨hnew, -⟩
      · rw [hat]
        refine hstamp row hrow (hsame.symm.trans hid) ?_
        rw [Dispute.waits, hlifecycle] at hwaits
        exact hwaits
      · rw [hwaits] at hgone
        cases hgone
      · exact absurd rfl ((h.unrecorded (hid ▸ hnew)).2.1 reminder hmem)
    spaced := h.spaced
    begun := h.begun
    tick := by
      intro tick htick
      have htick := h.tick tick htick
      exact { htick with stored := fun sending hsending => hkept _ (htick.stored sending hsending) } }

/-- **Recording a notification** stamps a row, where no first notification of it is under way and
every reminder of it is older. -/
theorem Inv.mark (h : notifier.Inv renotifyAfter) {id : DisputeId} {now : Int}
    (halone : ∀ broadcast ∈ notifier.firsts, broadcast.disputeId ≠ id)
    (hnewest : ∀ reminder ∈ notifier.reminders, reminder.disputeId = id → reminder.tick ≤ now) :
    ({ notifier with store := notifier.store.markNotified id now } : Notifier).Inv
      renotifyAfter := by
  have hkept : ∀ other, (∃ row ∈ notifier.store.disputes, row.disputeId = other) →
      ∃ row ∈ (notifier.store.markNotified id now).disputes, row.disputeId = other := by
    rintro other ⟨row, hrow, rfl⟩
    exact mem_markNotified hrow
  exact {
    ids := by
      rw [markNotified_ids]
      exact h.ids
    stamped := by
      intro later hmem hnotified
      rcases of_mem_markNotified hmem with ⟨-, -, hstamp, -⟩ | hrow
      · rw [hstamp]
        exact nofun
      · exact h.stamped later hrow hnotified
    firsts := h.firsts
    first := by
      intro broadcast hbroadcast
      have hfirst := h.first broadcast hbroadcast
      refine ⟨hkept _ hfirst.stored, ?_, hfirst.unhooked, hfirst.unreminded⟩
      intro later hmem hid
      -- Of the stamped dispute no first notification is under way.
      rcases of_mem_markNotified hmem with ⟨hsame, -⟩ | hrow
      · exact absurd (hid.symm.trans hsame) (halone broadcast hbroadcast)
      · exact hfirst.unstamped later hrow hid
    hooks := h.hooks
    hooked := by
      intro other hmem
      obtain ⟨hstored, hnot⟩ := h.hooked other hmem
      refine ⟨hkept other hstored, ?_⟩
      intro later hlater hid
      rcases of_mem_markNotified hlater with ⟨-, hnotified, -⟩ | hrow
      · rw [hnotified]
        exact nofun
      · exact hnot later hrow hid
    past := h.past
    reminded := by
      intro reminder hmem
      obtain ⟨hstored, hstamp⟩ := h.reminded reminder hmem
      refine ⟨hkept _ hstored, ?_⟩
      intro later hlater hid hwaits
      rcases of_mem_markNotified hlater with ⟨hsame, -, hat, -⟩ | hrow
      -- The new stamp is at least as late as every reminder of the dispute.
      · exact ⟨now, hat, hnewest reminder hmem (hid.symm.trans hsame)⟩
      · exact hstamp later hrow hid hwaits
    spaced := h.spaced
    begun := h.begun
    tick := by
      intro tick htick
      have htick := h.tick tick htick
      exact { htick with stored := fun sending hsending => hkept _ (htick.stored sending hsending) } }

/-- The hook fires for a dispute it never fired for, once that is new no more. -/
theorem Inv.hook (h : notifier.Inv renotifyAfter) {id : DisputeId} (hfresh : id ∉ notifier.hooks)
    (hstored : ∃ row ∈ notifier.store.disputes, row.disputeId = id)
    (hnot : ∀ row ∈ notifier.store.disputes, row.disputeId = id → row.lifecycle ≠ .new)
    (halone : ∀ broadcast ∈ notifier.firsts, broadcast.disputeId ≠ id)
    (hidle : ∀ tick ∈ notifier.tick, ∀ sending ∈ tick.sending, sending.row.disputeId ≠ id) :
    ({ notifier with hooks := notifier.hooks ++ [id] } : Notifier).Inv renotifyAfter :=
  { h with
    first := by
      intro broadcast hbroadcast
      have hfirst := h.first broadcast hbroadcast
      refine { hfirst with unhooked := ?_ }
      rw [List.mem_append, List.mem_singleton, not_or]
      exact ⟨hfirst.unhooked, halone broadcast hbroadcast⟩
    hooks := by
      rw [List.nodup_append]
      refine ⟨h.hooks, by simp, ?_⟩
      intro other hmem last hlast heq
      rw [List.mem_singleton.1 hlast] at heq
      exact hfresh (heq ▸ hmem)
    hooked := by
      intro other hmem
      rcases List.mem_append.1 hmem with hbefore | hlast
      · exact h.hooked other hbefore
      · obtain rfl := List.mem_singleton.1 hlast
        exact ⟨hstored, hnot⟩
    tick := by
      intro tick htick
      have hinv := h.tick tick htick
      refine { hinv with unhooked := ?_ }
      intro sending hsending hnew
      rw [List.mem_append, List.mem_singleton, not_or]
      exact ⟨hinv.unhooked sending hsending hnew, hidle tick htick sending hsending⟩ }

/-! ## First notifications -/

/-- A first notification begins: its dispute was not stored before. -/
theorem Inv.addFirst (h : notifier.Inv renotifyAfter) {broadcast : Broadcast}
    (hfirst : notifier.FirstInv broadcast)
    (hsole : ∀ other ∈ notifier.firsts, other.disputeId ≠ broadcast.disputeId)
    (hidle : ∀ tick ∈ notifier.tick, ∀ sending ∈ tick.sending,
      sending.row.disputeId ≠ broadcast.disputeId) :
    ({ notifier with firsts := notifier.firsts ++ [broadcast] } : Notifier).Inv renotifyAfter :=
  { h with
    firsts := by
      rw [List.map_append, List.nodup_append]
      refine ⟨h.firsts, by simp, ?_⟩
      intro id hid last hlast heq
      obtain ⟨other, hother, rfl⟩ := List.mem_map.1 hid
      obtain rfl : last = broadcast.disputeId := by simpa using hlast
      exact hsole other hother heq
    first := by
      intro other hmem
      rcases List.mem_append.1 hmem with hbefore | hlast
      · exact { h.first other hbefore with }
      · obtain rfl := List.mem_singleton.1 hlast
        exact { hfirst with }
    tick := by
      intro tick htick
      refine { h.tick tick htick with alone := ?_ }
      intro sending hsending other hmem
      rcases List.mem_append.1 hmem with hbefore | hlast
      · exact (h.tick tick htick).alone sending hsending other hbefore
      · rw [List.mem_singleton.1 hlast]
        exact Ne.symm (hidle tick htick sending hsending) }

/-- Some first notifications are left. -/
theorem Inv.keepFirsts (h : notifier.Inv renotifyAfter) {firsts : List Broadcast}
    (hids : (firsts.map Broadcast.disputeId).Sublist (notifier.firsts.map Broadcast.disputeId)) :
    ({ notifier with firsts := firsts } : Notifier).Inv renotifyAfter := by
  have hbefore : ∀ broadcast ∈ firsts, ∃ other ∈ notifier.firsts,
      other.disputeId = broadcast.disputeId := fun broadcast hmem =>
    List.mem_map.1 (hids.subset (List.mem_map_of_mem hmem))
  exact { h with
    firsts := h.firsts.sublist hids
    first := by
      intro broadcast hmem
      obtain ⟨other, hother, hid⟩ := hbefore broadcast hmem
      have hfirst := h.first other hother
      exact ⟨hid ▸ hfirst.stored, hid ▸ hfirst.unstamped, hid ▸ hfirst.unhooked,
        hid ▸ hfirst.unreminded⟩
    tick := by
      intro tick htick
      refine { h.tick tick htick with alone := ?_ }
      intro sending hsending broadcast hmem
      obtain ⟨other, hother, hid⟩ := hbefore broadcast hmem
      rw [← hid]
      exact (h.tick tick htick).alone sending hsending other hother }

/-- A handled event stores its dispute once, and stamps it once the solvers got it. -/
theorem Inv.handle (h : notifier.Inv renotifyAfter) (dispute : DisputeEvent) (now : Int) :
    (notifier.handle solvers dispute now).Inv renotifyAfter := by
  obtain ⟨hrevises, hnew⟩ := revises_record notifier.store dispute now
  have hinv := h.revise hrevises
  rw [Notifier.handle]
  generalize hrecord : notifier.store.record dispute now = recorded at hrevises hnew hinv
  obtain ⟨change, store⟩ := recorded
  split
  · next after heq =>
    obtain ⟨rfl, rfl⟩ := Prod.mk.inj heq
    obtain ⟨hmissing, hstored⟩ := hnew rfl
    obtain ⟨hhooks, hreminders, hfirsts, hticks⟩ := h.unrecorded hmissing
    split
    · exact hinv
    · refine hinv.addFirst ⟨hstored, ?_, hhooks, hreminders⟩ hfirsts hticks
      intro later hlater hid
      rcases hrevises.rows later hlater with ⟨row, hrow, hsame, -⟩ | ⟨-, hnone, -⟩
      · exact absurd (hsame.symm.trans hid) (hmissing row hrow)
      · exact hnone
  · next after _ heq =>
    obtain ⟨-, rfl⟩ := Prod.mk.inj heq
    exact hinv

/-- A first notification is over: it is recorded if some solver got it, and the hook fires. -/
theorem Inv.firstOver (h : notifier.Inv renotifyAfter) {broadcast : Broadcast}
    (hfirst : notifier.FirstInv broadcast)
    (hmem : ∃ other ∈ notifier.firsts, other.disputeId = broadcast.disputeId) :
    (notifier.firstOver broadcast).Inv renotifyAfter := by
  have hkept := h.keepFirsts (List.filter_sublist (l := notifier.firsts)
    (p := fun other => other.disputeId != broadcast.disputeId) |>.map Broadcast.disputeId)
  have hgone : ∀ other ∈ notifier.firsts.filter
      (fun other => other.disputeId != broadcast.disputeId),
      other.disputeId ≠ broadcast.disputeId := by
    intro other hother
    simpa using (List.mem_filter.1 hother).2
  rw [Notifier.firstOver]
  split
  · have hmarked := hkept.mark hgone fun reminder hreminder heq =>
      absurd heq (hfirst.unreminded reminder hreminder) (b := reminder.tick ≤ broadcast.now)
    refine hmarked.hook hfirst.unhooked ?_ (fun row hrow => ne_new_of_markNotified hrow) hgone ?_
    · obtain ⟨row, hrow, hid⟩ := hfirst.stored
      obtain ⟨later, hlater, hsame⟩ := mem_markNotified hrow
      exact ⟨later, hlater, hsame.trans hid⟩
    · intro tick htick sending hsending
      obtain ⟨other, hother, hid⟩ := hmem
      rw [← hid]
      exact ((h.tick tick htick).alone sending hsending other hother).symm
  · exact hkept

/-! ## Ticks -/

/-- A tick begins: the disputes on its list were last reminded of long enough ago. -/
theorem Inv.tickInv (h : notifier.Inv renotifyAfter) :
    notifier.TickInv renotifyAfter ⟨notifier.clock,
      notifier.store.listAwaitingSolver (notifier.clock - renotifyAfter), none⟩ where
  now := le_rfl
  newest := fun reminder hmem => (h.past reminder hmem).1.trans (h.past reminder hmem).2
  nodup := by
    have hperm := List.perm_insertionSort (fun a b : Dispute => a.firstSeenAt ≤ b.firstSeenAt)
      (notifier.store.disputes.filter fun row =>
        (row.lifecycle == .new || row.lifecycle == .notified) &&
          decide (row.lastNotifiedAt.getD row.firstSeenAt ≤ notifier.clock - renotifyAfter))
    refine (hperm.map Dispute.disputeId).nodup_iff.2 ?_
    exact h.ids.sublist (List.filter_sublist.map _)
  due := by
    intro due hdue reminder hmem hid
    rw [Store.listAwaitingSolver, List.mem_insertionSort, List.mem_filter] at hdue
    obtain ⟨hrow, hdue⟩ := hdue
    obtain ⟨hwaits, hpast⟩ := Bool.and_eq_true_iff.1 hdue
    obtain ⟨at', hat, hle⟩ := (h.reminded reminder hmem).2 due hrow hid.symm hwaits
    have hpast := of_decide_eq_true hpast
    rw [hat, Option.getD_some] at hpast
    exact le_sub_iff_add_le.1 (hle.trans hpast)
  begun := fun _ hsending => absurd hsending (Option.not_mem_none _)
  other := fun _ hsending => absurd hsending (Option.not_mem_none _)
  stored := fun _ hsending => absurd hsending (Option.not_mem_none _)
  alone := fun _ hsending => absurd hsending (Option.not_mem_none _)
  unhooked := fun _ hsending => absurd hsending (Option.not_mem_none _)
  spaced := fun _ hsending => absurd hsending (Option.not_mem_none _)

/-- The tick leaves a due dispute behind, or is over with the notification it sent. -/
theorem TickInv.idle {tick : ReminderTick} (h : notifier.TickInv renotifyAfter tick)
    {due : List Dispute} (hdue : due.Sublist tick.due) :
    notifier.TickInv renotifyAfter { tick with due := due, sending := none } where
  now := h.now
  newest := h.newest
  nodup := h.nodup.sublist (hdue.map _)
  due other hother := h.due other (hdue.subset hother)
  begun _ hsending := absurd hsending (Option.not_mem_none _)
  other _ hsending := absurd hsending (Option.not_mem_none _)
  stored _ hsending := absurd hsending (Option.not_mem_none _)
  alone _ hsending := absurd hsending (Option.not_mem_none _)
  unhooked _ hsending := absurd hsending (Option.not_mem_none _)
  spaced _ hsending := absurd hsending (Option.not_mem_none _)

/-- The tick may be any that the invariant allows. -/
theorem Inv.withTick (h : notifier.Inv renotifyAfter) {tick : ReminderTick}
    (htick : notifier.TickInv renotifyAfter tick) :
    ({ notifier with tick := some tick } : Notifier).Inv renotifyAfter := by
  refine { h with first := fun broadcast hmem => { h.first broadcast hmem with }, tick := ?_ }
  intro other hother
  obtain rfl := Option.some.inj hother
  exact { htick with }

/-- **A notification of a tick begins.** Its row was read again just now: a renewed first
notification is the only one under way, and a reminder comes after a recorded one. -/
theorem Inv.begin (h : notifier.Inv renotifyAfter) {tick : ReminderTick} {due row : Dispute}
    {rest : List Dispute} (htick : tick ∈ notifier.tick) (hdue : tick.due = due :: rest)
    (hidle : tick.sending = none) (hcurrent : notifier.current due = some row)
    (halone : row.lifecycle = .new →
      ∀ broadcast ∈ notifier.firsts, broadcast.disputeId ≠ row.disputeId) :
    (notifier.begin solvers tick row rest).Inv renotifyAfter := by
  have hinv := h.tick tick htick
  obtain ⟨hstored, hwaits⟩ := Option.filter_eq_some_iff.1 hcurrent
  obtain ⟨hrow, hid⟩ := Store.mem_of_dispute hstored
  rw [← hid] at hstored
  have hrest : rest.Sublist tick.due := hdue ▸ List.sublist_cons_self _ _
  rw [Notifier.begin]
  split
  · have := h.withTick (hinv.idle hrest)
    rw [← hidle] at this
    exact this
  · have hbegun : ({ notifier with
        begun := notifier.begun ++ [(row.disputeId, notifier.store)] } : Notifier).Inv
          renotifyAfter := by
      refine { h with
        first := fun broadcast hmem => { h.first broadcast hmem with }
        begun := ?_
        tick := fun tick htick => { h.tick tick htick with } }
      intro entry hentry
      rcases List.mem_append.1 hentry with hbefore | hlast
      · exact h.begun entry hbefore
      · rw [List.mem_singleton.1 hlast]
        exact ⟨row, hstored, hwaits⟩
    refine hbegun.withTick ?_
    exact {
      now := hinv.now
      newest := hinv.newest
      nodup := hinv.nodup.sublist (hrest.map _)
      due := fun other hother => hinv.due other (hrest.subset hother)
      begun := by
        intro sending hsending
        obtain rfl := Option.some.inj hsending
        exact ⟨hinv.now, le_rfl⟩
      other := by
        intro sending hsending other hother heq
        obtain rfl := Option.some.inj hsending
        have hnodup := hinv.nodup
        rw [hdue, List.map_cons, List.nodup_cons] at hnodup
        exact hnodup.1 (List.mem_map.2 ⟨other, hother, heq.trans hid⟩)
      stored := by
        intro sending hsending
        obtain rfl := Option.some.inj hsending
        exact ⟨row, hrow, rfl⟩
      alone := by
        intro sending hsending broadcast hbroadcast heq
        obtain rfl := Option.some.inj hsending
        by_cases hnew : row.lifecycle = .new
        · exact halone hnew broadcast hbroadcast heq
        · -- A notified row is stamped, and a first notification under way finds its row unstamped.
          have hnotified : row.lifecycle = .notified := by
            simpa [Dispute.waits, hnew] using hwaits
          exact h.stamped row hrow hnotified ((h.first broadcast hbroadcast).unstamped row hrow heq.symm)
      unhooked := by
        intro sending hsending hnew hmem
        obtain rfl := Option.some.inj hsending
        exact (h.hooked _ hmem).2 row hrow rfl hnew
      spaced := by
        intro sending hsending reminder hmem heq
        obtain rfl := Option.some.inj hsending
        exact hinv.due due (hdue ▸ .head _) reminder hmem (heq.trans hid) }

/-- A reminder was delivered: it is the newest of its dispute. -/
theorem Inv.addReminder (h : notifier.Inv renotifyAfter) {tick : ReminderTick} {reminder : Reminder}
    (htick : notifier.tick = some tick) (hnow : reminder.tick = tick.now)
    (hidle : tick.sending = none) (hbegun : tick.now ≤ reminder.begun ∧ reminder.begun ≤ notifier.clock)
    (hstored : ∃ row ∈ notifier.store.disputes, row.disputeId = reminder.disputeId)
    (hstamp : ∀ row ∈ notifier.store.disputes, row.disputeId = reminder.disputeId →
      row.waits = true → row.lastNotifiedAt = some tick.now)
    (hleft : ∀ due ∈ tick.due, due.disputeId ≠ reminder.disputeId)
    (halone : ∀ broadcast ∈ notifier.firsts, broadcast.disputeId ≠ reminder.disputeId)
    (hspaced : ∀ other ∈ notifier.reminders, other.disputeId = reminder.disputeId →
      other.tick + renotifyAfter ≤ tick.now) :
    ({ notifier with reminders := notifier.reminders ++ [reminder] } : Notifier).Inv
      renotifyAfter := by
  have hmem : ∀ other ∈ notifier.reminders ++ [reminder],
      other ∈ notifier.reminders ∨ other = reminder := by
    intro other hother
    simpa using hother
  exact { h with
    first := by
      intro broadcast hbroadcast
      have hfirst := h.first broadcast hbroadcast
      refine { hfirst with unreminded := ?_ }
      intro other hother
      rcases hmem other hother with hbefore | rfl
      · exact hfirst.unreminded other hbefore
      · exact (halone broadcast hbroadcast).symm
    past := by
      intro other hother
      rcases hmem other hother with hbefore | rfl
      · exact h.past other hbefore
      · rw [hnow]
        exact hbegun
    reminded := by
      intro other hother
      rcases hmem other hother with hbefore | rfl
      · exact h.reminded other hbefore
      · refine ⟨hstored, fun row hrow hid hwaits => ⟨tick.now, hstamp row hrow hid hwaits, ?_⟩⟩
        rw [hnow]
    spaced := by
      rw [List.pairwise_append]
      refine ⟨h.spaced, List.pairwise_singleton _ _, ?_⟩
      intro first hfirst second hsecond hid
      obtain rfl := List.mem_singleton.1 hsecond
      rw [hnow]
      exact hspaced first hfirst hid
    tick := by
      intro other htick'
      -- The tick under way is the one that sent it, and it sends nothing now.
      obtain rfl := Option.some.inj (htick.symm.trans htick')
      have hinv := h.tick tick htick
      have hnone : ∀ sending, sending ∉ tick.sending := by
        rw [hidle]
        exact fun sending => Option.not_mem_none sending
      exact {
        now := hinv.now
        newest := by
          intro other hother
          rcases hmem other hother with hbefore | rfl
          · exact hinv.newest other hbefore
          · rw [hnow]
        nodup := hinv.nodup
        due := by
          intro due hdue other hother hid
          rcases hmem other hother with hbefore | rfl
          · exact hinv.due due hdue other hbefore hid
          · exact absurd hid.symm (hleft due hdue)
        begun := fun sending hsending => absurd hsending (hnone sending)
        other := fun sending hsending => absurd hsending (hnone sending)
        stored := fun sending hsending => absurd hsending (hnone sending)
        alone := fun sending hsending => absurd hsending (hnone sending)
        unhooked := fun sending hsending => absurd hsending (hnone sending)
        spaced := fun sending hsending => absurd hsending (hnone sending) } }

/-- **A notification of a tick is over.** A delivered one stamps its dispute, and is the hook's or a
reminder's. -/
theorem Inv.reminderOver (h : notifier.Inv renotifyAfter) {tick : ReminderTick} {sending : Reminding}
    (htick : notifier.tick = some tick) (hsending : tick.sending = some sending)
    (broadcast : Broadcast) : (notifier.reminderOver tick sending broadcast).Inv renotifyAfter := by
  have hinv := h.tick tick htick
  have hover := h.withTick (hinv.idle (List.Sublist.refl tick.due))
  rw [Notifier.reminderOver]
  dsimp only
  split
  · have hmarked := hover.mark (hinv.alone sending hsending)
      fun reminder hmem _ => hinv.newest reminder hmem
    have hstored : ∃ row ∈ (notifier.store.markNotified sending.row.disputeId tick.now).disputes,
        row.disputeId = sending.row.disputeId := by
      obtain ⟨row, hrow, hid⟩ := hinv.stored sending hsending
      obtain ⟨later, hlater, hsame⟩ := mem_markNotified hrow
      exact ⟨later, hlater, hsame.trans hid⟩
    split
    · next hnew =>
      refine hmarked.hook (hinv.unhooked sending hsending hnew) hstored
        (fun row hrow => ne_new_of_markNotified hrow) (hinv.alone sending hsending) ?_
      intro other hother
      obtain rfl := Option.some.inj hother
      exact fun _ hnone => absurd hnone (Option.not_mem_none _)
    · refine hmarked.addReminder rfl rfl rfl (hinv.begun sending hsending) hstored ?_
        (hinv.other sending hsending) (hinv.alone sending hsending) (hinv.spaced sending hsending)
      exact fun row hrow hid hwaits => stamp_of_markNotified hrow hid hwaits
  · exact hover

/-- A notification of a tick goes on to its next solver. -/
theorem Inv.reminderOn (h : notifier.Inv renotifyAfter) {tick : ReminderTick} {sending : Reminding}
    (htick : notifier.tick = some tick) (hsending : tick.sending = some sending)
    (broadcast : Broadcast) :
    ({ notifier with tick := some { tick with
      sending := some { sending with broadcast := broadcast } } } : Notifier).Inv
        renotifyAfter := by
  have hbefore := h.tick tick htick
  refine h.withTick ?_
  exact { hbefore with
    begun := fun other hother => Option.some.inj hother ▸ hbefore.begun sending hsending
    other := fun other hother => Option.some.inj hother ▸ hbefore.other sending hsending
    stored := fun other hother => Option.some.inj hother ▸ hbefore.stored sending hsending
    alone := fun other hother => Option.some.inj hother ▸ hbefore.alone sending hsending
    unhooked := fun other hother => Option.some.inj hother ▸ hbefore.unhooked sending hsending
    spaced := fun other hother => Option.some.inj hother ▸ hbefore.spaced sending hsending }

/-! ## Runs -/

/-- Time passes. -/
theorem Inv.tickOn (h : notifier.Inv renotifyAfter) {now : Int} (hclock : notifier.clock ≤ now) :
    ({ notifier with clock := now } : Notifier).Inv renotifyAfter :=
  { h with
    first := fun broadcast hmem => { h.first broadcast hmem with }
    past := fun reminder hmem => ⟨(h.past reminder hmem).1, (h.past reminder hmem).2.trans hclock⟩
    tick := fun tick htick => { h.tick tick htick with
      now := (h.tick tick htick).now.trans hclock
      begun := fun sending hsending =>
        ⟨((h.tick tick htick).begun sending hsending).1,
          ((h.tick tick htick).begun sending hsending).2.trans hclock⟩ } }

/-- **One act** keeps the invariant, where a tick renews no first notification under way. -/
theorem Inv.act (h : notifier.Inv renotifyAfter) {act : NotifierAct} {later : Notifier}
    (halone : notifier.renewsAlone act = true)
    (hstep : notifier.act solvers renotifyAfter act = some later) : later.Inv renotifyAfter := by
  have hwritten : ∀ {store : Store}, store.disputes = notifier.store.disputes →
      ({ notifier with store := store } : Notifier).Inv renotifyAfter := by
    intro store hstore
    exact h.revise (hstore ▸ Revises.refl _)
  cases acts_of_act hstep with
  | time hclock => exact h.tickOn hclock
  | handle dispute now => exact h.handle dispute now
  | firstOver hfirst hstore =>
    have hinv := hwritten hstore
    obtain ⟨other, hmem, hid⟩ := hfirst
    have hother := hinv.first other hmem
    refine hinv.firstOver ?_ ⟨other, hmem, hid⟩
    exact ⟨hid ▸ hother.stored, hid ▸ hother.unstamped, hid ▸ hother.unhooked,
      hid ▸ hother.unreminded⟩
  | firstOn hids hstore => exact (hwritten hstore).keepFirsts (hids ▸ List.Sublist.refl _)
  | remind => exact h.withTick h.tickInv
  | ended =>
    exact { h with
      first := fun broadcast hmem => { h.first broadcast hmem with }
      tick := fun _ htick => absurd htick (Option.not_mem_none _) }
  | @skipped tick due rest htick hidle hdue =>
    have hrest : rest.Sublist tick.due := hdue ▸ List.sublist_cons_self _ _
    have hinv := h.withTick ((h.tick tick htick).idle hrest)
    rw [← hidle] at hinv
    exact hinv
  | @begins tick due row rest htick hidle hdue hcurrent =>
    -- The condition: a first notification that is renewed is not under way.
    refine h.begin htick hdue hidle hcurrent fun hnew broadcast hbroadcast => ?_
    rw [renewsAlone, upcoming_next htick hdue hcurrent, Option.all_some] at halone
    have hothers : (notifier.firsts.all fun broadcast =>
        broadcast.disputeId != row.disputeId) = true := by
      simpa [hnew] using halone
    simpa using List.all_eq_true.1 hothers broadcast hbroadcast
  | reminderOver htick hsending hstore => exact (hwritten hstore).reminderOver htick hsending _
  | reminderOn htick hsending hstore => exact (hwritten hstore).reminderOn htick hsending _
  | elsewhere hstore => exact hwritten hstore

/-- A dispute taken or resolved stays so when a revision is recorded. -/
theorem Settled.revise (h : notifier.Inv renotifyAfter) {id : DisputeId}
    (hsettled : notifier.Settled id) {later : Notifier}
    (hrevises : Revises notifier.store.disputes later.store.disputes) : later.Settled id := by
  obtain ⟨row, hrow, rfl, hgone⟩ := hsettled
  obtain ⟨kept, hkept, hid⟩ := hrevises.kept row hrow
  refine ⟨kept, hkept, hid, ?_⟩
  rcases hrevises.rows kept hkept with ⟨other, hother, hsame, -, hlifecycle | hleft⟩ | ⟨hnew, -⟩
  · obtain rfl : other = row :=
      List.inj_on_of_nodup_map h.ids hother hrow (hsame.symm.trans hid)
    rw [Dispute.waits, hlifecycle]
    exact hgone
  · exact hleft
  · exact absurd hid.symm (hnew row hrow)

/-- A late notification leaves a dispute taken or resolved. -/
theorem Settled.mark {id other : DisputeId} {now : Int} (h : notifier.Settled id) {later : Notifier}
    (hstore : later.store = notifier.store.markNotified other now) : later.Settled id := by
  obtain ⟨row, hrow, hid, hgone⟩ := h
  refine ⟨row, ?_, hid, hgone⟩
  rw [hstore, Store.markNotified, Store.updateDisputes]
  refine List.mem_map.2 ⟨row, hrow, ?_⟩
  rw [if_neg]
  intro hpicked
  have hwaits : row.waits = true := (Bool.and_eq_true_iff.1 hpicked).2
  rw [hgone] at hwaits
  cases hwaits

/-- What an act does to the store: a revision is recorded, a notification is, or no dispute is
written. -/
theorem act_store {act : NotifierAct} {later : Notifier}
    (hstep : notifier.act solvers renotifyAfter act = some later) :
    Revises notifier.store.disputes later.store.disputes ∨
      ∃ (store : Store) (id : DisputeId) (now : Int), store.disputes = notifier.store.disputes ∧
        later.store = store.markNotified id now := by
  cases acts_of_act hstep with
  | time hclock => exact Or.inl (Revises.refl _)
  | handle dispute now =>
    have hrevises := (revises_record notifier.store dispute now).1
    rw [Notifier.handle]
    generalize notifier.store.record dispute now = recorded at hrevises
    obtain ⟨change, store⟩ := recorded
    cases change <;> exact Or.inl hrevises
  | @firstOver _ _ store broadcast hfirst hstore =>
    by_cases hdelivered : 0 < broadcast.delivered
    · rw [Notifier.firstOver, if_pos hdelivered]
      exact Or.inr ⟨store, _, _, hstore, rfl⟩
    · rw [Notifier.firstOver, if_neg hdelivered]
      exact Or.inl (hstore ▸ Revises.refl _)
  | firstOn hids hstore => exact Or.inl (hstore ▸ Revises.refl _)
  | remind => exact Or.inl (Revises.refl _)
  | ended => exact Or.inl (Revises.refl _)
  | skipped htick hidle hdue => exact Or.inl (Revises.refl _)
  | begins htick hidle hdue hcurrent =>
    rw [Notifier.begin]
    split <;> exact Or.inl (Revises.refl _)
  | @reminderOver _ _ _ store broadcast htick hsending hstore =>
    rw [Notifier.reminderOver]
    dsimp only
    split
    · split <;> exact Or.inr ⟨store, _, _, hstore, rfl⟩
    · exact Or.inl (hstore ▸ Revises.refl _)
  | reminderOn htick hsending hstore => exact Or.inl (hstore ▸ Revises.refl _)
  | elsewhere hstore => exact Or.inl (hstore ▸ Revises.refl _)

/-- A dispute that waits for nobody stays so through every act. -/
theorem Settled.act (h : notifier.Inv renotifyAfter) {id : DisputeId}
    (hsettled : notifier.Settled id) {act : NotifierAct} {later : Notifier}
    (hstep : notifier.act solvers renotifyAfter act = some later) : later.Settled id := by
  rcases act_store hstep with hrevises | ⟨store, other, now, hdisputes, hstore⟩
  · exact hsettled.revise h hrevises
  · have hsame : ({ notifier with store := store } : Notifier).Settled id := by
      obtain ⟨row, hrow, hrest⟩ := hsettled
      exact ⟨row, hdisputes ▸ hrow, hrest⟩
    exact hsame.mark hstore

/-- Every reminder began at the time its tick was given. -/
structure OnTime (notifier : Notifier) : Prop where
  reminders : ∀ reminder ∈ notifier.reminders, reminder.begun = reminder.tick
  sending : ∀ tick ∈ notifier.tick, ∀ sending ∈ tick.sending, sending.row.lifecycle ≠ .new →
    sending.begun = tick.now

/-- A tick that sends nothing keeps reminders on time. -/
theorem OnTime.withTick (h : notifier.OnTime) {later : Notifier}
    (hreminders : later.reminders = notifier.reminders)
    (hidle : ∀ tick ∈ later.tick, tick.sending = none) : later.OnTime where
  reminders reminder hmem := h.reminders reminder (hreminders ▸ hmem)
  sending tick htick sending hsending := by
    rw [hidle tick htick] at hsending
    exact absurd hsending (Option.not_mem_none _)

/-- **One act** keeps reminders on time, where a tick begins none late. -/
theorem OnTime.act (h : notifier.OnTime) {act : NotifierAct} {later : Notifier}
    (htime : notifier.remindsOnTime act = true)
    (hstep : notifier.act solvers renotifyAfter act = some later) : later.OnTime := by
  cases acts_of_act hstep with
  | time hclock => exact ⟨h.reminders, h.sending⟩
  | handle dispute now =>
    rw [Notifier.handle]
    split <;> exact ⟨h.reminders, h.sending⟩
  | firstOver hfirst hstore =>
    rw [Notifier.firstOver]
    split <;> exact ⟨h.reminders, h.sending⟩
  | firstOn hids hstore => exact ⟨h.reminders, h.sending⟩
  | remind =>
    refine h.withTick rfl fun tick htick => ?_
    obtain rfl := Option.some.inj htick
    rfl
  | ended => exact h.withTick rfl fun tick htick => absurd htick (Option.not_mem_none _)
  | skipped htick hidle hdue =>
    refine h.withTick rfl fun tick htick => ?_
    obtain rfl := Option.some.inj htick
    exact hidle
  | begins htick hidle hdue hcurrent =>
    rw [remindsOnTime, upcoming_next htick hdue hcurrent, Option.all_some] at htime
    rw [Notifier.begin]
    split
    · refine h.withTick rfl fun tick htick => ?_
      obtain rfl := Option.some.inj htick
      exact hidle
    · refine ⟨h.reminders, ?_⟩
      intro other hother sending hsending hold
      obtain rfl := Option.some.inj hother
      obtain rfl := Option.some.inj hsending
      simpa [hold] using htime
  | @reminderOver _ tick sending _ broadcast htick hsending hstore =>
    have hidle : ∀ other ∈ some { tick with sending := none }, other.sending = none := by
      intro other hother
      obtain rfl := Option.some.inj hother
      rfl
    rw [Notifier.reminderOver]
    dsimp only
    split
    · split
      · exact h.withTick rfl hidle
      · next hold =>
        -- The reminder that is recorded is the one the tick began.
        refine ⟨fun reminder hmem => ?_, fun other hother again hagain => ?_⟩
        · rcases List.mem_append.1 hmem with hbefore | hlast
          · exact h.reminders reminder hbefore
          · rw [List.mem_singleton.1 hlast]
            exact h.sending tick htick sending hsending hold
        · rw [hidle other hother] at hagain
          exact absurd hagain (Option.not_mem_none _)
    · exact h.withTick rfl hidle
  | @reminderOn _ tick sending _ _ htick hsending hstore =>
    refine ⟨h.reminders, ?_⟩
    intro other hother again hagain hold
    obtain rfl := Option.some.inj hother
    obtain rfl := Option.some.inj hagain
    exact h.sending tick htick sending hsending hold
  | elsewhere hstore => exact ⟨h.reminders, h.sending⟩

/-- Nothing is stored at the start. -/
theorem start_inv (clock : Int) : (start clock).Inv renotifyAfter where
  ids := List.nodup_nil
  stamped _ h := absurd h List.not_mem_nil
  firsts := List.nodup_nil
  first _ h := absurd h List.not_mem_nil
  hooks := List.nodup_nil
  hooked _ h := absurd h List.not_mem_nil
  past _ h := absurd h List.not_mem_nil
  reminded _ h := absurd h List.not_mem_nil
  spaced := List.Pairwise.nil
  begun _ h := absurd h List.not_mem_nil
  tick _ h := absurd h (Option.not_mem_none _)

/-- Nothing was reminded at the start. -/
theorem start_onTime (clock : Int) : (start clock).OnTime where
  reminders _ h := absurd h List.not_mem_nil
  sending _ h := absurd h (Option.not_mem_none _)

/-- A property that every act keeps holds at the end of a run. -/
theorem run_induction {condition : Notifier → NotifierAct → Bool} {property : Notifier → Prop}
    (hkeeps : ∀ {notifier later : Notifier} {act : NotifierAct}, property notifier →
      condition notifier act = true → notifier.act solvers renotifyAfter act = some later →
      property later)
    {acts : List NotifierAct} {later : Notifier} (h : property notifier)
    (hrun : notifier.run solvers renotifyAfter condition acts = some later) : property later := by
  induction acts generalizing notifier with
  | nil =>
    obtain rfl := Option.some.inj hrun
    exact h
  | cons act rest ih =>
    rw [run, List.foldlM_cons] at hrun
    obtain ⟨middle, hfirst, hrest⟩ := Option.bind_eq_some_iff.1 hrun
    split at hfirst
    · next hcondition => exact ih (hkeeps h hcondition hfirst) hrest
    · cases hfirst

/-- **Where no first notification is renewed while it is under way**, the reminders of a dispute are
of ticks far enough apart, whenever each of them began. -/
theorem reminders_of_ticks_apart (clock : Int) {acts : List NotifierAct} {later : Notifier}
    (hrun : (start clock).run solvers renotifyAfter renewsAlone acts = some later) :
    later.reminders.Pairwise fun first second =>
      first.disputeId = second.disputeId → first.tick + renotifyAfter ≤ second.tick :=
  (run_induction (fun h hcondition hstep => h.act hcondition hstep) (start_inv clock) hrun :
    later.Inv renotifyAfter).spaced

end Notifier

/-- **New-dispute notices and reminders.** Where a tick renews no first notification while it is
under way and begins its reminders at its own time, a late `markNotified` brings no dispute back that
was taken or resolved, a tick begins its notifications for waiting disputes, reminders of a dispute
begin at least `renotifyAfter` apart, and the hook fires once for a dispute. -/
theorem notices_and_reminders (solvers : List Solver) (renotifyAfter clock : Int)
    (earlier later : List NotifierAct) (middle last : Notifier)
    (hearlier : (Notifier.start clock).run solvers renotifyAfter Notifier.keepsApart earlier =
      some middle)
    (hlater : middle.run solvers renotifyAfter Notifier.keepsApart later = some last) :
    (∀ id, middle.Settled id → last.Settled id) ∧ last.Law renotifyAfter := by
  have hkeeps : ∀ {notifier later : Notifier} {act : NotifierAct},
      notifier.Inv renotifyAfter ∧ notifier.OnTime → notifier.keepsApart act = true →
      notifier.act solvers renotifyAfter act = some later →
      later.Inv renotifyAfter ∧ later.OnTime := by
    rintro notifier later act ⟨hinv, htime⟩ hcondition hstep
    obtain ⟨halone, hontime⟩ := Bool.and_eq_true_iff.1 hcondition
    exact ⟨hinv.act halone hstep, htime.act hontime hstep⟩
  have hstart : (Notifier.start clock).Inv renotifyAfter ∧ (Notifier.start clock).OnTime :=
    ⟨Notifier.start_inv clock, Notifier.start_onTime clock⟩
  have hmiddle := Notifier.run_induction hkeeps hstart hearlier
  obtain ⟨hinv, htime⟩ := Notifier.run_induction hkeeps hmiddle hlater
  refine ⟨fun id hsettled => ?_, hinv.begun, ?_, List.nodup_iff_count_le_one.1 hinv.hooks⟩
  · have hstays : ∀ {notifier later : Notifier} {act : NotifierAct},
        (notifier.Inv renotifyAfter ∧ notifier.OnTime) ∧ notifier.Settled id →
        notifier.keepsApart act = true → notifier.act solvers renotifyAfter act = some later →
        (later.Inv renotifyAfter ∧ later.OnTime) ∧ later.Settled id :=
      fun h hcondition hstep => ⟨hkeeps h.1 hcondition hstep, h.2.act h.1.1 hstep⟩
    exact (Notifier.run_induction hstays ⟨hmiddle, hsettled⟩ hlater).2
  · refine hinv.spaced.imp_of_mem ?_
    intro first second hfirst hsecond hspaced hid
    have := hspaced hid
    have := (hinv.past second hsecond).1
    rw [htime.reminders first hfirst]
    omega

/-- A solver, and the first revision of a dispute. -/
def oneSolver : List Solver := [⟨1, .write⟩]

def disputeOpened (id : DisputeId) : DisputeEvent := ⟨id, .buyer, .initiated, 0, id, false⟩

/-- Two disputes are told to the solver; a tick later the solver is reminded of both. -/
def remindedActs : List NotifierAct :=
  [.handle (disputeOpened 7) 0, .answered 7 (.ok ()), .handle (disputeOpened 8) 0,
    .answered 8 (.ok ()), .time 900, .remind, .next, .reminded (.ok ()), .next, .reminded (.ok ()),
    .next]

/-- Two disputes nobody took are reminded of once each. -/
theorem notices_and_reminders_reminded :
    ∃ last, (Notifier.start 0).run oneSolver 900 Notifier.keepsApart remindedActs = some last ∧
      last.hooks = [7, 8] ∧ last.reminders = [⟨7, 900, 900⟩, ⟨8, 900, 900⟩] ∧ last.Law 900 := by
  have hrecords : ((Notifier.start 0).run oneSolver 900 Notifier.keepsApart remindedActs).map
      (fun last => (last.hooks, last.reminders)) =
        some ([7, 8], [⟨7, 900, 900⟩, ⟨8, 900, 900⟩]) := by
    decide +kernel
  obtain ⟨last, hrun, hlast⟩ := Option.map_eq_some_iff.1 hrecords
  obtain ⟨hhooks, hreminders⟩ := Prod.mk.inj hlast
  refine ⟨last, hrun, hhooks, hreminders, ?_⟩
  exact (notices_and_reminders oneSolver 900 0 [] remindedActs (Notifier.start 0) last rfl hrun).2

/-- The first send of a dispute takes until a tick renews it: both are delivered, and the hook fires
twice. -/
theorem not_notices_and_reminders :
    ¬∀ (solvers : List Solver) (renotifyAfter clock : Int) (earlier later : List NotifierAct)
      (middle last : Notifier),
      (Notifier.start clock).run solvers renotifyAfter (fun _ _ => true) earlier = some middle →
      middle.run solvers renotifyAfter (fun _ _ => true) later = some last →
      (∀ id, middle.Settled id → last.Settled id) ∧ last.Law renotifyAfter := by
  intro h
  let acts : List NotifierAct := [.handle (disputeOpened 7) 0, .time 900, .remind, .next,
    .reminded (.ok ()), .answered 7 (.ok ())]
  have hhooks : ((Notifier.start 0).run oneSolver 900 (fun _ _ => true) acts).map
      Notifier.hooks = some [7, 7] := by
    decide +kernel
  obtain ⟨last, hrun, hlast⟩ := Option.map_eq_some_iff.1 hhooks
  have honce := (h oneSolver 900 0 [] acts (Notifier.start 0) last rfl hrun).2.hookOnce 7
  rw [hlast] at honce
  revert honce
  decide

/-- A reminder that begins late in its tick is stamped with the tick's time: the next one begins too
soon after it. -/
theorem reminders_close_when_late :
    ∃ acts last, (Notifier.start 0).run oneSolver 900 Notifier.renewsAlone acts = some last ∧
      ⟨8, 900, 1000⟩ ∈ last.reminders ∧ ⟨8, 1800, 1800⟩ ∈ last.reminders := by
  let acts : List NotifierAct :=
    [.handle (disputeOpened 7) 0, .answered 7 (.ok ()), .handle (disputeOpened 8) 0,
      .answered 8 (.ok ()), .time 900, .remind, .next, .time 1000, .reminded (.ok ()), .next,
      .reminded (.ok ()), .next, .time 1800, .remind, .next, .reminded (.ok ()), .next,
      .reminded (.ok ())]
  have hreminders : ((Notifier.start 0).run oneSolver 900 Notifier.renewsAlone acts).map
      Notifier.reminders =
        some [⟨7, 900, 900⟩, ⟨8, 900, 1000⟩, ⟨7, 1800, 1800⟩, ⟨8, 1800, 1800⟩] := by
    decide +kernel
  obtain ⟨last, hrun, hlast⟩ := Option.map_eq_some_iff.1 hreminders
  exact ⟨acts, last, hrun, by rw [hlast]; decide, by rw [hlast]; decide⟩

end Serbero
