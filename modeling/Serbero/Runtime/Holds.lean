import Serbero.Mediation.Hold
import Serbero.Runtime.Ledger
import Serbero.Store.Growth

/-! # The order of arrival and the holds

Messages are numbered as they arrive, and a hold's cutoff is the newest number of its session's
messages when it started. -/

namespace Serbero

open Pool

variable {deployment : Deployment} {thread : Thread Task}

/-- The start of a hold. -/
def EventKind.isHeld : EventKind → Bool
  | .held _ => true
  | _ => false

/-- The holds of a session, oldest first. -/
def Store.holds (store : Store) (id : SessionId) : List Event :=
  store.events.filter fun event => event.isHeld id

/-- A hold is one of its session. -/
theorem Event.isHeld_iff {event : Event} {id : SessionId} :
    event.isHeld id = true ↔ event.sessionId = some id ∧ event.kind.isHeld = true := by
  rw [Event.isHeld, Bool.and_eq_true, beq_iff_eq]
  rfl

/-- The store counts its messages, and each hold has a cutoff among them. -/
structure Store.Counts (store : Store) : Prop where
  numbered : ∀ (i : Nat) row, store.messages[i]? = some row → row.id = i + 1
  cutoffs : ∀ event ∈ store.events, event.kind.isHeld = true →
    ∃ cutoff : Int, event.kind = .held (some cutoff) ∧ cutoff ≤ store.messages.length

namespace Store.Counts

variable {store later : Store}

/-- The newest number of a session's messages is among all numbers. -/
theorem newest_le (h : store.Counts) (id : SessionId) :
    newestMessageId (store.listMessages id) ≤ store.messages.length :=
  Numbered.newest_le h.numbered id

/-- One message more. -/
theorem add (h : store.Counts) {row : Message} (hid : row.id = store.messages.length + 1)
    (hmessages : later.messages = store.messages ++ [row]) (hevents : later.events = store.events) :
    later.Counts where
  numbered i found hfound := by
    rw [hmessages] at hfound
    rcases Nat.lt_or_ge i store.messages.length with hlt | hge
    · rw [List.getElem?_append_left hlt] at hfound
      exact h.numbered i found hfound
    · rw [List.getElem?_append_right hge, List.getElem?_singleton] at hfound
      split at hfound
      · next hzero =>
        cases hfound
        omega
      · cases hfound
  cutoffs event hevent hheld := by
    rw [hevents] at hevent
    obtain ⟨cutoff, hkind, hle⟩ := h.cutoffs event hevent hheld
    refine ⟨cutoff, hkind, ?_⟩
    rw [hmessages, List.length_append]
    omega

/-- The same messages, and no hold more. -/
theorem keep (h : store.Counts) (hmessages : later.messages = store.messages)
    (hlogs : Store.Logs (fun kind => !kind.isHeld) store later) : later.Counts where
  numbered i found hfound := h.numbered i found (hmessages ▸ hfound)
  cutoffs event hevent hheld := by
    obtain ⟨more, heq, hmore⟩ := hlogs
    rw [hmessages]
    rw [heq] at hevent
    rcases List.mem_append.mp hevent with hold | hnew
    · exact h.cutoffs event hold hheld
    · have hnot : (!event.kind.isHeld) = true := hmore event hnew
      rw [hheld] at hnot
      cases hnot

end Store.Counts

/-! ## Steps -/

/-- The call starts a hold. -/
def Call.starts {β : Type} : Call β → Bool
  | .recordHold _ _ => true
  | _ => false

/-- No other call starts a hold. -/
theorem performCall_notHeld {β : Type} {call : Call β} (hcall : call.starts = false)
    {world : World} (hneeds : Needs thread call world) (oracle : Oracle) :
    Store.Logs (fun kind => !kind.isHeld) world.store
      (performCall deployment thread call oracle world).2.store := by
  refine (performCall_logs deployment thread call oracle world).mono fun kind hkind => ?_
  cases call with
  | append new =>
    rw [show kind = new.kind from eq_of_beq hkind]
    have hmark : new.kind.isMark = false := hneeds
    cases hnew : new.kind <;> first | rfl | (rw [hnew] at hmark; cases hmark)
  | activate _ _ _ => cases kind <;> first | rfl | cases hkind
  | abandon _ _ _ _ => cases kind <;> first | rfl | cases hkind
  | handOff _ _ _ => cases kind <;> first | rfl | cases hkind
  | startGuiding _ _ _ => cases kind <;> first | rfl | cases hkind
  | record _ _ => cases kind <;> first | rfl | cases hkind
  | recordHold _ _ => cases hcall
  | _ => cases hkind

/-- A hold that starts is recorded with the newest number of its session's messages. -/
theorem performCall_recordHold (deployment : Deployment) (thread : Thread Task) (session : Session)
    (now : Int) (oracle : Oracle) (world : World) :
    let later := (performCall deployment thread (.recordHold session now) oracle world).2
    let cutoff := Store.newestMessageId (world.store.listMessages session.sessionId)
    later = world ∨ later =
      { world with
        store := world.store.append
          ⟨session.disputeId, some session.sessionId, .held (some cutoff), now⟩
        holdNotices := world.holdNotices.filter fun notice => notice.1 != session.sessionId } := by
  simp only [performCall, World.orFail]
  split
  · exact Or.inl rfl
  · exact Or.inr rfl

/-- The call stores a message. -/
def Call.stores {β : Type} : Call β → Bool
  | .insertMessage _ => true
  | _ => false

/-- No other call stores one. -/
theorem performCall_messages {β : Type} {call : Call β} (hcall : call.stores = false)
    (oracle : Oracle) (world : World) :
    (performCall deployment thread call oracle world).2.store.messages = world.store.messages := by
  have hwrites := performCall_writes deployment thread call oracle world
  generalize (performCall deployment thread call oracle world).2.store = later at hwrites ⊢
  cases hwrites with
  | insertMessage => cases hcall
  | activate => exact Store.queueForObservers_messages _ _ _ _ _
  | abandon => exact (Stepped.abandonOpening_spec world.store _ _ _ _ _).2.2.1
  | handOff hclaim => exact (Stepped.claimHandOff_spec hclaim).2.2.2.1
  | startGuiding hclaim => exact (Stepped.claimGuiding_spec hclaim).2.2.2.1
  | record => exact (world.store.record_cases _ _).1
  | _ => rfl

/-- Every step counts on. -/
theorem counts_performCall {β : Type} {call : Call β} {world : World}
    (h : world.store.Counts) (hneeds : Needs thread call world) (oracle : Oracle) :
    (performCall deployment thread call oracle world).2.store.Counts := by
  by_cases hstarts : call.starts = true
  · cases call with
    | recordHold session now =>
      rcases performCall_recordHold deployment thread session now oracle world with hsame | hlater
      · rw [hsame]
        exact h
      · rw [hlater]
        refine ⟨h.numbered, fun event hevent hheld => ?_⟩
        rcases List.mem_append.mp hevent with hold | hnew
        · exact h.cutoffs event hold hheld
        · rw [List.mem_singleton.mp hnew]
          exact ⟨_, rfl, h.newest_le session.sessionId⟩
    | _ => cases hstarts
  · have hlogs : Store.Logs (fun kind => !kind.isHeld) world.store
        (performCall deployment thread call oracle world).2.store :=
      performCall_notHeld (by simpa using hstarts) hneeds oracle
    by_cases hstores : call.stores = true
    · cases call with
      | insertMessage new =>
        obtain ⟨messages, hlater, hmessages⟩ :=
          performCall_insertMessage deployment thread new oracle world
        rw [hlater]
        rcases hmessages with rfl | rfl
        · exact h.keep rfl (.of_eq rfl)
        · refine h.add ?_ rfl rfl
          rfl
      | _ => cases hstores
    · exact h.keep (performCall_messages (by simpa using hstores) oracle world) hlogs

/-- What happens outside the tasks gives the rows their numbers. -/
theorem counts_happen {happening : Happening} {world later : World} (h : world.store.Counts)
    (hhappen : happen deployment happening world = some later) : later.store.Counts := by
  obtain ⟨hevents, htraffic⟩ := happen_traffic hhappen
  rcases htraffic with hsame | ⟨message, -, hid, hsame⟩
  · exact h.keep (congrArg Traffic.messages hsame) (.of_eq hevents)
  · exact h.add hid (congrArg Traffic.messages hsame) hevents

/-- The start of a task stores nothing. -/
theorem counts_launch {world later : World} (h : world.store.Counts)
    (hlaunch : launch thread world = some later) : later.store.Counts := by
  rw [(launch_traffic hlaunch).1]
  exact h

/-- Nothing is numbered at the start. -/
theorem counts_start (clock : Int) : (World.start clock).store.Counts := by
  constructor <;> simp [World.start, Store.empty]

end Serbero
