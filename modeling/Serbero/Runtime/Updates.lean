import Serbero.Runtime.Calls

/-! # Updates after a hand-off

Once a session was handed off, what its parties write goes to the solvers as updates, one call at a
time. The cursor of what they have seen is the id of an update's last message; an update is in
conversation order, so its last message need not be the one that arrived last. -/

namespace Serbero

open Pool
open Pool.Program

/-! ## What the solvers have not seen -/

/-- The newest message the event says the solvers have seen. -/
def EventKind.seen : EventKind → Option Int
  | .handoff _ last => some last
  | .updateSent last => some last
  | _ => none

/-- The newest message the event says the solvers of the session have seen. -/
def Event.seenOf (id : SessionId) (event : Event) : Option Int :=
  if event.sessionId = some id then event.kind.seen else none

/-- What the events say the solvers of the session have seen. -/
def Store.seenMarks (store : Store) (session : Session) : List Int :=
  (store.listEvents session.disputeId).filterMap (Event.seenOf session.sessionId)

/-- The cursor is the newest of what the events name. -/
theorem Store.lastSeen_eq (store : Store) (session : Session) :
    Store.lastSeen (store.listEvents session.disputeId) session.sessionId =
      (store.seenMarks session).max?.getD 0 := by
  rw [Store.lastSeen, Store.seenMarks]
  congr 2

/-- An event about something else says nothing of what was seen. -/
theorem Store.seenMarks_append_of_none (store : Store) (session : Session) {new : NewEvent}
    (h : new.sessionId = some session.sessionId → new.kind.seen = none) :
    (store.append new).seenMarks session = store.seenMarks session := by
  have hnone : Event.seenOf session.sessionId
      ⟨store.events.length + 1, new.disputeId, new.sessionId, new.kind, new.now⟩ = none := by
    rw [Event.seenOf]
    split
    · next hsession => exact h hsession
    · rfl
  simp only [Store.seenMarks, Store.append, Store.listEvents, List.filter_append,
    List.filterMap_append]
  by_cases hdispute : new.disputeId = session.disputeId
  · rw [List.filter_cons_of_pos (by simpa using hdispute), List.filter_nil, List.filterMap_cons,
      hnone, List.filterMap_nil, List.append_nil]
  · rw [List.filter_cons_of_neg (by simpa using hdispute), List.filter_nil, List.filterMap_nil,
      List.append_nil]

/-- An event of the session says what was seen. -/
theorem Store.seenMarks_append_of_some (store : Store) (session : Session) {kind : EventKind}
    {last : Int} (h : kind.seen = some last) (now : Int) :
    (store.append ⟨session.disputeId, some session.sessionId, kind, now⟩).seenMarks session =
      store.seenMarks session ++ [last] := by
  simp [Store.seenMarks, Store.append, Store.listEvents, Event.seenOf, h]

/-- The observers' notices say nothing of what was seen. -/
theorem Store.seenMarks_queueForObservers (store : Store) (session : Session)
    (observers : List Nat) (id : DisputeId) (subject : String) (now : Int) :
    (store.queueForObservers observers id subject now).seenMarks session =
      store.seenMarks session := by
  induction observers generalizing store with
  | nil => rfl
  | cons observer rest ih =>
    rw [Store.queueForObservers, List.foldl_cons, ← Store.queueForObservers, ih]
    rcases store.queueForObserver_cases id subject now observer with hsame | happended
    · rw [hsame]
    · rw [happended]
      apply store.seenMarks_append_of_none session
      intro hsession
      cases hsession

/-- The party messages the solvers have not seen, in conversation order. -/
def Store.unseen (store : Store) (session : Session) : List Message :=
  let seen := Store.lastSeen (store.listEvents session.disputeId) session.sessionId
  (store.listMessages session.sessionId).filter fun message =>
    message.direction == .inbound && decide (message.id > seen)

/-- A call of `forward_updates`: one section that reads, one delivery, and one section that records
it once a solver got all of it. -/
theorem forwardUpdates_eq (deployment : Deployment) (session : Session) (now : Int) :
    forwardUpdates deployment session now =
      (perform (.read fun store => store.unseen session)).bind fun fresh =>
        match fresh.getLast? with
        | none => done 0
        | some last =>
          (deliver (recipients deployment.solvers) session.disputeId
            (List.replicate (deployment.parts fresh) "update") now).bind fun delivered =>
              if delivered = 0 then done 0
              else (perform (.append
                ⟨session.disputeId, some session.sessionId, .updateSent last.id, now⟩)).bind
                  fun _ => done fresh.length := rfl

/-- A party's message of the session. -/
def Message.isInboundOf (message : Message) (id : SessionId) : Prop :=
  message.sessionId = id ∧ message.direction = .inbound

/-- What is unseen: the parties' messages above the cursor. -/
theorem Store.mem_unseen {store : Store} {session : Session} {message : Message} :
    message ∈ store.unseen session ↔ message ∈ store.messages ∧
      message.isInboundOf session.sessionId ∧
      Store.lastSeen (store.listEvents session.disputeId) session.sessionId < message.id := by
  simp only [Store.unseen, Store.listMessages, List.mem_filter, mem_conversationOrder,
    Message.isInboundOf, Bool.and_eq_true, beq_iff_eq, decide_eq_true_eq, gt_iff_lt, and_assoc]

/-! ## Calls, one at a time -/

/-- An update, as its call read it. -/
structure Update where
  messages : List Message
  /-- For the record: how many messages were stored when the call read them. -/
  stored : Nat

/-- The last message of the update is the one that arrived last. -/
def Update.EndsNewest (update : Update) : Prop :=
  ∀ last, update.messages.getLast? = some last → ∀ message ∈ update.messages,
    message.id ≤ last.id

/-- The store, the update under way, and the updates some solver got in full. -/
structure Forwarding where
  store : Store
  call : Option Update
  delivered : List Update

/-- One step after a hand-off. -/
inductive ForwardingInput
  /-- A message of a party, or Serbero's own, is stored. -/
  | arrive (message : NewMessage)
  /-- Something else is recorded. -/
  | note (event : NewEvent)
  /-- A call of `forward_updates` reads what it has to forward. -/
  | read
  /-- Its delivery ends: this many solvers got all of it. -/
  | deliver (complete : Nat) (now : Int)

namespace Forwarding

/-- One step. -/
def step (session : Session) (state : Forwarding) : ForwardingInput → Forwarding
  | .arrive message =>
    match state.store.insertMessageIfNew message with
    | .ok (_, store) => { state with store := store }
    | .error _ => state
  | .note event =>
    if event.sessionId = some session.sessionId ∧ event.kind.seen.isSome then state
    else { state with store := state.store.append event }
  | .read =>
    match state.call with
    | some _ => state
    | none =>
      let fresh := state.store.unseen session
      if fresh.isEmpty then state
      else { state with call := some ⟨fresh, state.store.messages.length⟩ }
  | .deliver complete now =>
    match state.call with
    | none => state
    | some update =>
      match update.messages.getLast? with
      | none => { state with call := none }
      | some last =>
        if complete = 0 then { state with call := none }
        else
          { store := state.store.append
              ⟨session.disputeId, some session.sessionId, .updateSent last.id, now⟩
            call := none
            delivered := state.delivered ++ [update] }

/-- A run. -/
def run (session : Session) (state : Forwarding) (inputs : List ForwardingInput) : Forwarding :=
  inputs.foldl (step session) state

end Forwarding

/-- A session that a hand-off just claimed. -/
structure HandedOver where
  before : Store
  observers : List Nat
  session : Session
  reason : HandoffReason
  now : Int
  pending : Int
  store : Store
  claimed : before.claimHandOff observers session reason now = some (pending, store)
  /-- Messages are numbered as they are stored. -/
  numbered : ∀ (i : Nat) message, before.messages[i]? = some message → message.id = i + 1
  /-- It is the session's first hand-off. -/
  first : before.seenMarks session = []

/-- The newest message of the session at its hand-off. -/
def HandedOver.cutoff (handed : HandedOver) : Int :=
  Store.newestMessageId (handed.before.listMessages handed.session.sessionId)

/-- Before the first update. -/
def HandedOver.start (handed : HandedOver) : Forwarding := ⟨handed.store, none, []⟩

/-- The cursor after the first updates. -/
def cursorAt (cutoff : Int) (delivered : List Update) : Nat → Int
  | 0 => cutoff
  | k + 1 => ((delivered[k]?).bind fun update => update.messages.getLast?).elim cutoff Message.id

/-- The cursor after the first updates is the same whatever follows. -/
theorem cursorAt_append (cutoff : Int) (delivered more : List Update) {k : Nat}
    (h : k ≤ delivered.length) :
    cursorAt cutoff (delivered ++ more) k = cursorAt cutoff delivered k := by
  cases k with
  | zero => rfl
  | succ k => rw [cursorAt, cursorAt, List.getElem?_append_left h]

/-- After an update the cursor is its last message. -/
theorem cursorAt_succ {cutoff : Int} {delivered : List Update} {k : Nat} {update : Update}
    {last : Message} (h : delivered[k]? = some update)
    (hlast : update.messages.getLast? = some last) :
    cursorAt cutoff delivered (k + 1) = last.id := by
  rw [cursorAt, h, Option.bind_some, hlast, Option.elim_some]

/-- What an update holds: the parties' messages above the cursor among those stored by then. -/
structure Update.Reads (id : SessionId) (rows : List Message) (seen : Int) (update : Update) :
    Prop where
  stored : update.stored ≤ rows.length
  nonempty : update.messages ≠ []
  mem : ∀ message, message ∈ update.messages ↔
    message ∈ rows.take update.stored ∧ message.isInboundOf id ∧ seen < message.id

/-- What an update told of the messages stays told when more arrive. -/
theorem Update.Reads.append {id : SessionId} {rows : List Message} {seen : Int}
    {update : Update} (h : update.Reads id rows seen) (more : List Message) :
    update.Reads id (rows ++ more) seen where
  stored := by
    rw [List.length_append]
    exact Nat.le_add_right_of_le h.stored
  nonempty := h.nonempty
  mem message := by
    rw [h.mem message, List.take_append_of_le_length h.stored]

/-- What holds between two steps. -/
structure Forwarding.Inv (session : Session) (cutoff : Int) (state : Forwarding) : Prop where
  numbered : ∀ (i : Nat) message, state.store.messages[i]? = some message → message.id = i + 1
  seen : (state.store.seenMarks session).max? =
    some (cursorAt cutoff state.delivered state.delivered.length)
  delivered : ∀ (k : Nat) update, state.delivered[k]? = some update →
    update.Reads session.sessionId state.store.messages (cursorAt cutoff state.delivered k)
  ordered : state.delivered.Pairwise fun a b => a.stored ≤ b.stored
  call : ∀ update, state.call = some update →
    update.Reads session.sessionId state.store.messages
      (cursorAt cutoff state.delivered state.delivered.length) ∧
    ∀ earlier ∈ state.delivered, earlier.stored ≤ update.stored

namespace Forwarding.Inv

variable {session : Session} {cutoff : Int} {state : Forwarding}

/-- The cursor of the events is that of the updates. -/
theorem lastSeen (h : state.Inv session cutoff) :
    Store.lastSeen (state.store.listEvents session.disputeId) session.sessionId =
      cursorAt cutoff state.delivered state.delivered.length := by
  rw [Store.lastSeen_eq, h.seen, Option.getD_some]

/-- Messages are only added, and the events say the same about what was seen. -/
theorem grow (h : state.Inv session cutoff) {store : Store} (more : List Message)
    (hmessages : store.messages = state.store.messages ++ more)
    (hnumbered : ∀ (i : Nat) message, store.messages[i]? = some message → message.id = i + 1)
    (hseen : store.seenMarks session = state.store.seenMarks session) :
    Inv session cutoff { state with store := store } where
  numbered := hnumbered
  seen := by
    rw [hseen]
    exact h.seen
  delivered k update hupdate := by
    rw [hmessages]
    exact (h.delivered k update hupdate).append more
  ordered := h.ordered
  call update hcall := by
    rw [hmessages]
    exact ⟨(h.call update hcall).1.append more, (h.call update hcall).2⟩

/-- Recording that solvers got the update under way. -/
theorem delivers (h : state.Inv session cutoff) {update : Update}
    (hcall : state.call = some update) {last : Message}
    (hlast : update.messages.getLast? = some last) (now : Int) :
    Inv session cutoff
      { store := state.store.append
          ⟨session.disputeId, some session.sessionId, .updateSent last.id, now⟩
        call := none
        delivered := state.delivered ++ [update] } := by
  obtain ⟨hreads, hstored⟩ := h.call update hcall
  have hplace : (state.delivered ++ [update])[state.delivered.length]? = some update := by
    rw [List.getElem?_concat_length]
  -- The update's last message is above the cursor it was read with.
  have habove : cursorAt cutoff state.delivered state.delivered.length < last.id :=
    ((hreads.mem last).mp (List.mem_of_getLast? hlast)).2.2
  refine ⟨h.numbered, ?_, ?_, ?_, fun _ hnone => by cases hnone⟩
  · rw [List.length_append, List.length_singleton, cursorAt_succ hplace hlast]
    rw [state.store.seenMarks_append_of_some session rfl, List.max?_eq_some_iff]
    obtain ⟨-, hmax⟩ := List.max?_eq_some_iff.mp h.seen
    refine ⟨List.mem_append_right _ List.mem_cons_self, fun seen hmem => ?_⟩
    rcases List.mem_append.mp hmem with hold | hnew
    · exact (hmax seen hold).trans habove.le
    · exact (List.mem_singleton.mp hnew).le
  · intro k found hfound
    rcases Nat.lt_trichotomy k state.delivered.length with hlt | rfl | hgt
    · rw [List.getElem?_append_left hlt] at hfound
      rw [cursorAt_append _ _ _ hlt.le]
      exact h.delivered k found hfound
    · rw [hplace, Option.some.injEq] at hfound
      rw [cursorAt_append _ _ _ le_rfl, ← hfound]
      exact hreads
    · rw [List.getElem?_eq_none (by simp; omega)] at hfound
      cases hfound
  · rw [List.pairwise_append]
    refine ⟨h.ordered, List.pairwise_singleton _ _, fun earlier hearlier found hfound => ?_⟩
    rw [List.mem_singleton.mp hfound]
    exact hstored earlier hearlier

/-- **One step** keeps the invariant. -/
theorem step (h : state.Inv session cutoff) (input : ForwardingInput) :
    (state.step session input).Inv session cutoff := by
  cases input with
  | arrive message =>
    rw [Forwarding.step]
    split
    · next inserted store hinsert =>
      rcases (Store.insertMessageIfNew_eq_ok hinsert).2 with ⟨-, rfl, -⟩ | ⟨-, rfl⟩
      · exact h
      · refine h.grow [message.row (state.store.messages.length + 1)] rfl ?_ rfl
        -- The added message has the next number.
        intro i found hfound
        rcases Nat.lt_trichotomy i state.store.messages.length with hlt | rfl | hgt
        · rw [List.getElem?_append_left hlt] at hfound
          exact h.numbered i found hfound
        · rw [List.getElem?_concat_length, Option.some.injEq] at hfound
          rw [← hfound, NewMessage.row]
        · rw [List.getElem?_eq_none (by simp; omega)] at hfound
          cases hfound
    · exact h
  | note event =>
    rw [Forwarding.step]
    split
    · exact h
    · next hnot =>
      -- The mark of an update that was delivered is the only one the cursor follows.
      refine h.grow [] (List.append_nil _).symm h.numbered ?_
      refine state.store.seenMarks_append_of_none session fun hsession => ?_
      by_contra hsome
      exact hnot ⟨hsession, Option.isSome_iff_ne_none.mpr hsome⟩
  | read =>
    rw [Forwarding.step]
    split
    · exact h
    · simp only []
      split
      · exact h
      · next hfresh =>
        refine { h with call := fun update hcall => ?_ }
        -- The call reads what is stored now; the cursor says which of it is new.
        rw [Option.some.injEq] at hcall
        subst hcall
        refine ⟨⟨le_rfl, by simpa using hfresh, fun message => ?_⟩, fun earlier hearlier => ?_⟩
        · rw [Store.mem_unseen, h.lastSeen, List.take_length]
        · obtain ⟨k, hk⟩ := List.mem_iff_getElem?.mp hearlier
          exact (h.delivered k earlier hk).stored
  | deliver complete now =>
    rw [Forwarding.step]
    have hover : Inv session cutoff { state with call := none } :=
      { h with call := fun _ hnone => by cases hnone }
    split
    · exact h
    · next update hcall =>
      split
      · exact hover
      · next last hlast =>
        split
        · exact hover
        · exact h.delivers hcall hlast now

/-- **A whole run** keeps the invariant. -/
theorem run (h : state.Inv session cutoff) (inputs : List ForwardingInput) :
    (state.run session inputs).Inv session cutoff := by
  induction inputs generalizing state with
  | nil => exact h
  | cons input rest ih => exact ih (h.step input)

/-! ## What the updates hold -/

variable (h : state.Inv session cutoff)

include h

/-- The cursor never goes back. -/
theorem cursorAt_mono {k j : Nat} (hle : k ≤ j) (hj : j ≤ state.delivered.length) :
    cursorAt cutoff state.delivered k ≤ cursorAt cutoff state.delivered j := by
  induction j, hle using Nat.le_induction with
  | base => exact le_rfl
  | succ j hle ih =>
    refine (ih (Nat.le_of_succ_le hj)).trans ?_
    have hreads := h.delivered j _ (List.getElem?_eq_getElem hj)
    obtain ⟨last, hlast⟩ := Option.ne_none_iff_exists'.mp fun hnone =>
      hreads.nonempty (List.getLast?_eq_none_iff.mp hnone)
    rw [cursorAt_succ (List.getElem?_eq_getElem hj) hlast]
    exact ((hreads.mem last).mp (List.mem_of_getLast? hlast)).2.2.le

/-- **Nothing is lost.** What was stored before a delivered update's call is in an update. -/
theorem covered (k : Nat) {update : Update} (hupdate : state.delivered[k]? = some update)
    {message : Message} (hstored : message ∈ state.store.messages.take update.stored)
    (hinbound : message.isInboundOf session.sessionId) (hcutoff : cutoff < message.id) :
    ∃ found ∈ state.delivered, message ∈ found.messages := by
  induction k generalizing update with
  | zero =>
    exact ⟨update, List.mem_of_getElem? hupdate,
      ((h.delivered 0 update hupdate).mem message).mpr ⟨hstored, hinbound, hcutoff⟩⟩
  | succ k ih =>
    have hlt := (List.getElem?_eq_some_iff.mp hupdate).1
    by_cases hseen : cursorAt cutoff state.delivered (k + 1) < message.id
    · exact ⟨update, List.mem_of_getElem? hupdate,
        ((h.delivered (k + 1) update hupdate).mem message).mpr ⟨hstored, hinbound, hseen⟩⟩
    · -- It had arrived by the call of the update before.
      have hbefore := List.getElem?_eq_getElem (Nat.lt_of_succ_lt hlt)
      refine ih hbefore ?_
      generalize state.delivered[k] = earlier at hbefore ⊢
      have hreads := h.delivered k earlier hbefore
      obtain ⟨last, hlast⟩ := Option.ne_none_iff_exists'.mp fun hnone =>
        hreads.nonempty (List.getLast?_eq_none_iff.mp hnone)
      rw [cursorAt_succ hbefore hlast] at hseen
      have hlastStored := ((hreads.mem last).mp (List.mem_of_getLast? hlast)).1
      obtain ⟨i, hi⟩ := List.mem_iff_getElem?.mp hlastStored
      obtain ⟨j, hj⟩ := List.mem_iff_getElem?.mp (List.mem_of_mem_take hstored)
      rw [List.getElem?_take] at hi
      split at hi
      · next hilt =>
        have hlastId := h.numbered i last hi
        have hid := h.numbered j message hj
        have hjlt : j < earlier.stored := by omega
        refine List.mem_iff_getElem?.mpr ⟨j, ?_⟩
        rw [List.getElem?_take, if_pos hjlt]
        exact hj
      · cases hi

/-- **When nothing is repeated.** Exactly when every update but the last ends with the message that
arrived last. -/
theorem disjoint_iff :
    (state.delivered.Pairwise fun a b => ∀ message ∈ a.messages, message ∉ b.messages) ↔
      ∀ update ∈ state.delivered.dropLast, update.EndsNewest := by
  rw [List.pairwise_iff_getElem]
  constructor
  · intro hdisjoint update hupdate last hlast message hmessage
    obtain ⟨k, hk⟩ := List.mem_iff_getElem?.mp hupdate
    rw [List.getElem?_dropLast] at hk
    split at hk
    · next hlt =>
      have hnext : k + 1 < state.delivered.length := by omega
      by_contra habove
      -- The next update reads the message again.
      have hreads := h.delivered k update hk
      have hreads' := h.delivered (k + 1) _ (List.getElem?_eq_getElem hnext)
      obtain ⟨hstored, hinbound, -⟩ := (hreads.mem message).mp hmessage
      have hk' := (List.getElem?_eq_some_iff.mp hk)
      obtain ⟨hklt, rfl⟩ := hk'
      refine hdisjoint k (k + 1) hklt hnext (Nat.lt_succ_self k) message hmessage
        ((hreads'.mem message).mpr ⟨?_, hinbound, ?_⟩)
      · exact (List.take_subset_take_left _
          (List.pairwise_iff_getElem.mp h.ordered k (k + 1) hklt hnext (Nat.lt_succ_self k)))
          hstored
      · rw [cursorAt_succ hk hlast]
        exact not_le.mp habove
    · cases hk
  · intro hends i j hi hj hij message hmessage hagain
    have hreads := h.delivered i _ (List.getElem?_eq_getElem hi)
    have hreads' := h.delivered j _ (List.getElem?_eq_getElem hj)
    obtain ⟨last, hlast⟩ := Option.ne_none_iff_exists'.mp fun hnone =>
      hreads.nonempty (List.getLast?_eq_none_iff.mp hnone)
    have hmem : state.delivered[i] ∈ state.delivered.dropLast := by
      refine List.mem_iff_getElem?.mpr ⟨i, ?_⟩
      rw [List.getElem?_dropLast, if_pos (by omega)]
      exact List.getElem?_eq_getElem hi
    have hnewest := hends _ hmem last hlast message hmessage
    have hcursor := h.cursorAt_mono (Nat.succ_le_of_lt hij) hj.le
    rw [cursorAt_succ (List.getElem?_eq_getElem hi) hlast] at hcursor
    have habove := ((hreads'.mem message).mp hagain).2.2
    omega

end Forwarding.Inv

/-- The invariant holds right after the hand-off. -/
theorem HandedOver.inv_start (handed : HandedOver) :
    handed.start.Inv handed.session handed.cutoff := by
  have hmessages : handed.store.messages = handed.before.messages :=
    (Stepped.claimHandOff_spec handed.claimed).2.2.2.1
  have hseen : handed.store.seenMarks handed.session = [handed.cutoff] := by
    obtain ⟨-, hstore⟩ := Store.claimHandOff_eq_some handed.claimed
    rw [hstore, Store.seenMarks_queueForObservers, Store.seenMarks_append_of_none _ _ fun _ => rfl,
      Store.seenMarks_append_of_some _ _ rfl]
    change handed.before.seenMarks handed.session ++ [handed.cutoff] = [handed.cutoff]
    rw [handed.first, List.nil_append]
  exact
    { numbered := by
        rw [HandedOver.start, hmessages]
        exact handed.numbered
      seen := by
        rw [HandedOver.start, hseen]
        rfl
      delivered := fun k update hnone => by simp [HandedOver.start] at hnone
      ordered := List.Pairwise.nil
      call := fun update hnone => by cases hnone }

/-- **Post-handoff forwarding.** In every run of calls after a hand-off, no message is in two
delivered updates if and only if every delivered update but the last ends with the message that
arrived last; and whatever was stored above the cutoff before a delivered update's call is in some
delivered update. -/
theorem forwarding_repeats_iff (handed : HandedOver) (inputs : List ForwardingInput) :
    let final := handed.start.run handed.session inputs
    ((final.delivered.Pairwise fun a b => ∀ message ∈ a.messages, message ∉ b.messages) ↔
      ∀ update ∈ final.delivered.dropLast, update.EndsNewest) ∧
    ∀ update ∈ final.delivered, ∀ message ∈ final.store.messages.take update.stored,
      message.isInboundOf handed.session.sessionId → handed.cutoff < message.id →
        ∃ found ∈ final.delivered, message ∈ found.messages := by
  have inv := handed.inv_start.run inputs
  refine ⟨inv.disjoint_iff, fun update hupdate message hstored hinbound hcutoff => ?_⟩
  obtain ⟨k, hk⟩ := List.mem_iff_getElem?.mp hupdate
  exact inv.covered k hk hstored hinbound hcutoff

/-! ## A message dated before the one that arrived first -/

/-- A session that was handed off before anybody wrote. -/
def handedOver : HandedOver :=
  let session := NewSession.row ⟨0, 1, none, none, none, none, 0⟩
  let before : Store := { Store.empty with sessions := [{ session with state := .active }] }
  { before := before
    observers := []
    session := session
    reason := .humanRequested
    now := 10
    pending := 2
    store := ((before.claimHandOff [] session .humanRequested 10).map Prod.snd).getD before
    claimed := rfl
    numbered := by simp [before, Store.empty]
    first := rfl }

/-- Two messages of the buyer, the second one dated before the first, and two calls that both reach
a solver. -/
def repeatedRun : List ForwardingInput :=
  [.arrive ⟨0, .inbound, .buyer, none, none, "first", 0, .party 1, 100⟩,
    .arrive ⟨0, .inbound, .buyer, none, none, "second", 0, .party 2, 50⟩,
    .read, .deliver 1 200, .read, .deliver 1 300]

/-- The second message is in both updates. -/
theorem not_forwarded_once :
    ¬∀ (handed : HandedOver) (inputs : List ForwardingInput),
      (handed.start.run handed.session inputs).delivered.Pairwise fun a b =>
        ∀ message ∈ a.messages, message ∉ b.messages := by
  intro once
  have hpairwise := once handedOver repeatedRun
  revert hpairwise
  decide +kernel

end Serbero
