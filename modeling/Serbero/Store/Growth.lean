import Mathlib.Data.List.Sort
import Serbero.Judge.State
import Serbero.Store.Evolution

/-! # What is never rewritten

Messages are only added. What the judge is told of a session besides its messages, the order facts
and who opened the dispute, stays as it was inserted, so a state once built can be built again from
the messages that were stored by then. -/

namespace Serbero

/-- The columns of a session that the state reads. -/
def Session.terms (session : Session) :
    SessionId × DisputeId × Option String × Option String × Option String :=
  (session.sessionId, session.disputeId, session.fiatAmount, session.fiatCode,
    session.paymentMethod)

/-- The columns of a dispute that the state reads. -/
def Dispute.origin (dispute : Dispute) : DisputeId × Initiator :=
  (dispute.disputeId, dispute.initiator)

/-- The state reads these columns only. -/
theorem buildState_terms {session session' : Session} (h : session'.terms = session.terms)
    (nip19 : List Char → Bool) (openedBy : Initiator) (messages : List Message) (maxChars : Nat) :
    buildState nip19 session' openedBy messages maxChars =
      buildState nip19 session openedBy messages maxChars := by
  simp only [Session.terms, Prod.mk.injEq] at h
  obtain ⟨-, -, hamount, hcode, hmethod⟩ := h
  simp only [buildState, orderFacts, hamount, hcode, hmethod]

/-- A session's messages are the stored rows with its id. -/
theorem Store.mem_listMessages {store : Store} {id : SessionId} {row : Message} :
    row ∈ store.listMessages id ↔ row ∈ store.messages ∧ row.sessionId = id := by
  rw [Store.listMessages, mem_conversationOrder, List.mem_filter, beq_iff_eq]

/-- No message of a list is newer than its newest. -/
theorem Store.le_newestMessageId {messages : List Message} {row : Message} (h : row ∈ messages) :
    row.id ≤ Store.newestMessageId messages := by
  unfold Store.newestMessageId
  cases hmax : (messages.map Message.id).max? with
  | none =>
    rw [List.max?_eq_none_iff, List.map_eq_nil_iff] at hmax
    rw [hmax] at h
    exact absurd h List.not_mem_nil
  | some newest => exact (List.max?_eq_some_iff.mp hmax).2 _ (List.mem_map_of_mem h)

namespace Store

/-! ## Numbers -/

/-- The messages are numbered as they arrived. -/
def Numbered (store : Store) : Prop :=
  ∀ (i : Nat) row, store.messages[i]? = some row → row.id = i + 1

namespace Numbered

variable {store : Store}

/-- The ids are the positions, from one. -/
theorem id_of_mem (h : store.Numbered) {row : Message} (hrow : row ∈ store.messages) :
    1 ≤ row.id ∧ row.id ≤ store.messages.length := by
  obtain ⟨i, hi⟩ := List.mem_iff_getElem?.mp hrow
  have hnumber := h i row hi
  have hlt := (List.getElem?_eq_some_iff.mp hi).1
  omega

/-- No two rows have the same id. -/
theorem nodup (h : store.Numbered) : (store.messages.map Message.id).Nodup := by
  rw [List.nodup_iff_pairwise_ne, List.pairwise_map, List.pairwise_iff_getElem]
  intro i j hi hj hlt heq
  have hfirst := h i _ (List.getElem?_eq_getElem hi)
  have hsecond := h j _ (List.getElem?_eq_getElem hj)
  omega

/-- No message is newer than the last row. -/
theorem newest_le (h : store.Numbered) (id : SessionId) :
    newestMessageId (store.listMessages id) ≤ store.messages.length := by
  unfold newestMessageId
  cases hmax : ((store.listMessages id).map Message.id).max? with
  | none =>
    rw [Option.getD_none]
    omega
  | some newest =>
    obtain ⟨row, hrow, rfl⟩ := List.mem_map.mp (List.max?_mem hmax)
    exact (h.id_of_mem (Store.mem_listMessages.mp hrow).1).2

end Numbered

/-! ## Growth -/

/-- A later store: more messages with the next numbers, and the same sessions and disputes before
all others. -/
structure Grows (store later : Store) : Prop where
  messages : store.messages <+: later.messages
  numbered : store.Numbered → later.Numbered
  sessions : store.sessions.map Session.terms <+: later.sessions.map Session.terms
  disputes : store.disputes.map Dispute.origin <+: later.disputes.map Dispute.origin

namespace Grows

variable {a b c : Store}

/-- A store grows into itself. -/
theorem refl (store : Store) : store.Grows store :=
  ⟨List.prefix_rfl, id, List.prefix_rfl, List.prefix_rfl⟩

/-- One growth after another. -/
theorem trans (h : a.Grows b) (h' : b.Grows c) : a.Grows c :=
  ⟨h.messages.trans h'.messages, fun hnumbered => h'.numbered (h.numbered hnumbered),
    h.sessions.trans h'.sessions, h.disputes.trans h'.disputes⟩

/-- A store with the same rows. -/
theorem of_eq (hmessages : b.messages = a.messages) (hsessions : b.sessions = a.sessions)
    (hdisputes : b.disputes = a.disputes) : a.Grows b := by
  constructor
  · exact hmessages ▸ List.prefix_rfl
  · intro hnumbered i row hrow
    rw [hmessages] at hrow
    exact hnumbered i row hrow
  · exact hsessions ▸ List.prefix_rfl
  · exact hdisputes ▸ List.prefix_rfl

/-- A stored session is found later, with its terms. -/
theorem session (h : a.Grows b) {id : SessionId} {found : Session}
    (hfound : a.session id = some found) :
    ∃ later, b.session id = some later ∧ later.terms = found.terms := by
  have key : ∀ store : Store, (store.session id).map Session.terms =
      (store.sessions.map Session.terms).find? fun terms => terms.1 == id := by
    intro store
    rw [List.find?_map]
    rfl
  have hterms : (a.session id).map Session.terms = some found.terms := by
    rw [hfound, Option.map_some]
  rw [key] at hterms
  have hlater := h.sessions.find?_eq_some hterms
  rw [← key] at hlater
  exact Option.map_eq_some_iff.mp hlater

/-- A stored dispute is found later, with its origin. -/
theorem dispute (h : a.Grows b) {id : DisputeId} {openedBy : Initiator}
    (hfound : (a.dispute id).map Dispute.initiator = some openedBy) :
    (b.dispute id).map Dispute.initiator = some openedBy := by
  have key : ∀ store : Store, (store.dispute id).map Dispute.origin =
      (store.disputes.map Dispute.origin).find? fun origin => origin.1 == id := by
    intro store
    rw [List.find?_map]
    rfl
  obtain ⟨row, hrow, rfl⟩ := Option.map_eq_some_iff.mp hfound
  have horigin : (a.dispute id).map Dispute.origin = some row.origin := by
    rw [hrow, Option.map_some]
  rw [key] at horigin
  have hlater := h.disputes.find?_eq_some horigin
  rw [← key] at hlater
  obtain ⟨later, hlater, hsame⟩ := Option.map_eq_some_iff.mp hlater
  rw [hlater, Option.map_some]
  exact congrArg some (Prod.mk.inj hsame).2

/-! ## Statements of the store -/

variable (store : Store)

/-- Updating sessions is growth as long as their terms stay. -/
theorem updateSessions {picked : Session → Bool} {change : Session → Session}
    (h : ∀ row, (change row).terms = row.terms) : store.Grows (store.updateSessions picked change) := by
  refine ⟨List.prefix_rfl, id, ?_, List.prefix_rfl⟩
  rw [Store.updateSessions, List.map_map]
  refine (List.map_congr_left fun row _ => ?_) ▸ List.prefix_rfl
  simp only [Function.comp_apply]
  split
  · exact h row
  · rfl

/-- Updating disputes is growth as long as their origins stay. -/
theorem updateDisputes {picked : Dispute → Bool} {change : Dispute → Dispute}
    (h : ∀ row, (change row).origin = row.origin) :
    store.Grows (store.updateDisputes picked change) := by
  refine ⟨List.prefix_rfl, id, List.prefix_rfl, ?_⟩
  rw [Store.updateDisputes, List.map_map]
  refine (List.map_congr_left fun row _ => ?_) ▸ List.prefix_rfl
  simp only [Function.comp_apply]
  split
  · exact h row
  · rfl

/-- An event more. -/
theorem append (new : NewEvent) : store.Grows (store.append new) := of_eq rfl rfl rfl

/-- Notices queued for the observers. -/
theorem queueForObservers (observers : List Nat) (id : DisputeId) (subject : String) (now : Int) :
    store.Grows (store.queueForObservers observers id subject now) := by
  apply of_eq
  · exact store.queueForObservers_messages observers id subject now
  · exact store.queueForObservers_sessions observers id subject now
  · exact store.queueForObservers_disputes observers id subject now

/-- A session more. -/
theorem addSession (row : Session) :
    store.Grows { store with sessions := store.sessions ++ [row] } := by
  refine ⟨List.prefix_rfl, id, ?_, List.prefix_rfl⟩
  rw [List.map_append]
  exact List.prefix_append _ _

/-- A message more, under the next id. -/
theorem addMessage {row : Message} (hid : row.id = store.messages.length + 1) :
    store.Grows { store with messages := store.messages ++ [row] } := by
  refine ⟨List.prefix_append _ _, fun hnumbered i found hfound => ?_, List.prefix_rfl,
    List.prefix_rfl⟩
  rcases Nat.lt_or_ge i store.messages.length with hlt | hge
  · rw [List.getElem?_append_left hlt] at hfound
    exact hnumbered i found hfound
  · rw [List.getElem?_append_right hge, List.getElem?_singleton] at hfound
    split at hfound
    · cases hfound
      omega
    · cases hfound

/-- A dispute more, unless its id is stored. -/
theorem insertDisputeIfNew (new : NewDispute) : store.Grows (store.insertDisputeIfNew new) := by
  unfold Store.insertDisputeIfNew
  split
  · exact refl store
  · refine ⟨List.prefix_rfl, id, List.prefix_rfl, ?_⟩
    rw [List.map_append]
    exact List.prefix_append _ _

/-- A session's state. -/
theorem setState (id : SessionId) (state : SessionState) (now : Int) :
    store.Grows (store.setState id state now) := updateSessions store fun _ => rfl

/-- A dispute's life cycle. -/
theorem setLifecycle (id : DisputeId) (lifecycle : Lifecycle) (now : Int) :
    store.Grows (store.setLifecycle id lifecycle now) := updateDisputes store fun _ => rfl

/-- A party's language. -/
theorem setLanguage (id : SessionId) (party : Party) (lang : String) (now : Int) :
    store.Grows (store.setLanguage id party lang now) :=
  updateSessions store fun _ => by cases party <;> rfl

end Grows

end Store

end Serbero
