import Serbero.Lib.Companion
import Serbero.Runtime.Holds
import Serbero.Runtime.Lifecycle
import Serbero.Store.Growth

/-! # Replaying what was judged

An evaluation keeps the newest message id of the state that was judged. The state is built before
the judge is asked, by a turn, by the timers or by a retry, and messages arrive meanwhile; beside
the daemon it is noted which state each recorded evaluation was asked for. -/

namespace Serbero

open Pool
open Pool.Program

/-! ## The store grows -/

/-- A recorded revision is growth. -/
theorem Store.Grows.record (store : Store) (dispute : DisputeEvent) (now : Int) :
    store.Grows (store.record dispute now).2 := by
  refine Store.record_steps .refl .trans .insertDisputeIfNew .setState .setLifecycle
    (fun before new _ => .append before new) ?_
  unfold Store.applyStatus
  repeat' split
  · exact .refl store
  · exact .updateDisputes store fun _ => rfl
  · exact .refl store

variable {deployment : Deployment}

/-- A call only adds to what is read. -/
theorem performCall_grows (deployment : Deployment) {β : Type} (thread : Thread Task)
    (call : Call β) (oracle : Oracle) (world : World) :
    world.store.Grows (performCall deployment thread call oracle world).2.store := by
  have hwrites := performCall_writes deployment thread call oracle world
  generalize (performCall deployment thread call oracle world).2.store = later at hwrites ⊢
  cases hwrites with
  | nothing => exact .refl world.store
  | insertSession hid => exact .addSession world.store _
  | insertMessage => exact .addMessage world.store rfl
  | activate => exact .trans (.setState world.store _ _ _) (.queueForObservers _ _ _ _ _)
  | @abandon dispute id reason now =>
    unfold Store.abandonOpening
    -- The state of the row, if there is one, two marks, and the notices of the observers.
    refine .trans (.trans (.trans ?_ (.append _ _)) (.append _ _)) (.queueForObservers _ _ _ _ _)
    cases id with
    | none => exact .refl world.store
    | some id => exact .updateSessions world.store fun _ => rfl
  | append => exact .append world.store _
  | handOff hclaim =>
    obtain ⟨-, rfl⟩ := Store.claimHandOff_eq_some hclaim
    refine .trans (.trans (.trans ?_ (.append _ _)) (.append _ _)) (.queueForObservers _ _ _ _ _)
    exact .updateSessions world.store fun _ => rfl
  | startGuiding hclaim =>
    obtain ⟨-, rfl⟩ := Store.claimGuiding_eq_some hclaim
    refine .trans (.trans (.trans ?_ (.append _ _)) (.append _ _)) (.queueForObservers _ _ _ _ _)
    exact .updateSessions world.store fun _ => rfl
  | recordHold => exact .append world.store _
  | setLanguage => exact .setLanguage world.store _ _ _ _
  | countRound => exact .updateSessions world.store fun _ => rfl
  | insertEvaluation => exact .of_eq rfl rfl rfl
  | record => exact .record world.store _ _
  | markNotified => exact .updateDisputes world.store fun _ => rfl

/-- So is what happens outside the tasks. -/
theorem happen_grows {happening : Happening} {world later : World}
    (h : happen deployment happening world = some later) : world.store.Grows later.store := by
  cases happens_of_happen h with
  | received => exact .addMessage world.store rfl
  | _ => exact .refl world.store

/-! ## Building a state again -/

/-- The state that a recorded cutoff is replayed to: of the session as stored, and of its stored
messages up to the cutoff. -/
def replay (deployment : Deployment) (store : Store) (id : SessionId) (last : Int) :
    Option JudgeState :=
  (store.load id).map fun loaded =>
    buildState deployment.nip19 loaded.1 loaded.2.2
      (loaded.2.1.filter fun message => decide (message.id ≤ last))
      deployment.settings.maxMessageChars

/-- The messages up to a cutoff that was reached stay what they were. -/
theorem filter_listMessages {store later : Store} (hgrows : store.messages <+: later.messages)
    (hnumbered : later.Numbered) {last : Int} (hlast : last ≤ store.messages.length) (id : SessionId) :
    (later.listMessages id).filter (fun message => decide (message.id ≤ last)) =
      (store.listMessages id).filter fun message => decide (message.id ≤ last) := by
  obtain ⟨more, hmore⟩ := hgrows
  have hdistinct : ((store.messages.filter (·.sessionId == id)).map Message.id).Nodup := by
    refine hnumbered.nodup.sublist ?_
    rw [← hmore]
    exact (List.filter_sublist.trans (List.sublist_append_left _ _)).map Message.id
  have hdistinct' : ((later.messages.filter (·.sessionId == id)).map Message.id).Nodup :=
    hnumbered.nodup.sublist (List.filter_sublist.map Message.id)
  -- What came later has larger numbers.
  have hnone : (more.filter (·.sessionId == id)).filter
      (fun message => decide (message.id ≤ last)) = [] := by
    rw [List.filter_eq_nil_iff]
    intro message hmem
    obtain ⟨i, hi⟩ := List.mem_iff_getElem?.mp (List.mem_of_mem_filter hmem)
    have hnumber := hnumbered (store.messages.length + i) message (by
      rw [← hmore, List.getElem?_append_right (Nat.le_add_right _ _), Nat.add_sub_cancel_left]
      exact hi)
    rw [decide_eq_true_eq, hnumber]
    omega
  rw [Store.listMessages, Store.listMessages, filter_conversationOrder hdistinct',
    filter_conversationOrder hdistinct, ← hmore, List.filter_append, List.filter_append, hnone,
    List.append_nil]

/-- The state is built again from what is stored, and stays so. -/
structure Replays (deployment : Deployment) (store : Store) (id : SessionId) (last : Int)
    (state : JudgeState) : Prop where
  numbered : store.Numbered
  stored : last ≤ store.messages.length
  built : replay deployment store id last = some state

/-- What a task read of a session: its row, and its messages up to the newest one by then. -/
structure Reads (store : Store) (session : Session) (messages : List Message) : Prop where
  numbered : store.Numbered
  known : ∃ row, store.session session.sessionId = some row ∧ row.terms = session.terms
  stored : Store.newestMessageId messages ≤ store.messages.length
  messages : ((store.listMessages session.sessionId).filter fun message =>
    decide (message.id ≤ Store.newestMessageId messages)) = messages

namespace Replays

variable {store later : Store} {id : SessionId} {last : Int} {state : JudgeState}

/-- What replays still does when the store has grown. -/
theorem grow (h : Replays deployment store id last state) (hgrows : store.Grows later) : Replays deployment later id last state := by
  have hnumbered := hgrows.numbered h.numbered
  refine ⟨hnumbered, ?_, ?_⟩
  · have hle := hgrows.messages.length_le
    have hstored := h.stored
    omega
  obtain ⟨⟨session, messages, openedBy⟩, hload, hstate⟩ := Option.map_eq_some_iff.mp h.built
  obtain ⟨found, hfound, hrest⟩ := Option.bind_eq_some_iff.mp hload
  obtain ⟨dispute, hdispute, heq⟩ := Option.map_eq_some_iff.mp hrest
  cases heq
  obtain ⟨row, hrow, hterms⟩ := hgrows.session hfound
  have hid : row.disputeId = session.disputeId := congrArg (fun terms => terms.2.1) hterms
  have hbefore : (store.dispute session.disputeId).map Dispute.initiator =
      some dispute.initiator := by
    rw [hdispute, Option.map_some]
  have hopened := hgrows.dispute hbefore
  obtain ⟨found, hfoundDispute, hinitiator⟩ := Option.map_eq_some_iff.mp hopened
  rw [← hid] at hfoundDispute
  rw [replay, Store.load, hrow, Option.bind_some, hfoundDispute, Option.map_some, Option.map_some,
    ← hstate]
  simp only [hinitiator, filter_listMessages hgrows.messages hnumbered h.stored,
    buildState_terms hterms]

end Replays

namespace Reads

variable {store later : Store} {session : Session} {messages : List Message}

/-- So does what reads as it was read. -/
theorem grow (h : Reads store session messages) (hgrows : store.Grows later) : Reads later session messages := by
  have hnumbered := hgrows.numbered h.numbered
  refine ⟨hnumbered, ?_, ?_, ?_⟩
  · obtain ⟨row, hrow, hterms⟩ := h.known
    obtain ⟨found, hfound, hsame⟩ := hgrows.session hrow
    exact ⟨found, hfound, hsame.trans hterms⟩
  · have hle := hgrows.messages.length_le
    have hstored := h.stored
    omega
  · rw [filter_listMessages hgrows.messages hnumbered h.stored]
    exact h.messages

/-- A read of a known session and its messages. -/
theorem of_list (hnumbered : store.Numbered)
    (hknown : ∃ row, store.session session.sessionId = some row ∧ row.terms = session.terms) :
    Reads store session (store.listMessages session.sessionId) := by
  refine ⟨hnumbered, hknown, hnumbered.newest_le _, ?_⟩
  rw [List.filter_eq_self]
  intro message hmem
  exact decide_eq_true (Store.le_newestMessageId hmem)

/-- What was read and who opened the dispute build a state that is built again. -/
theorem replays (h : Reads store session messages) {openedBy : Initiator}
    (hopened : (store.dispute session.disputeId).map Dispute.initiator = some openedBy) :
    Replays deployment store session.sessionId (Store.newestMessageId messages)
      (buildState deployment.nip19 session openedBy messages
        deployment.settings.maxMessageChars) := by
  refine ⟨h.numbered, h.stored, ?_⟩
  obtain ⟨row, hrow, hterms⟩ := h.known
  have hid : row.disputeId = session.disputeId := congrArg (fun terms => terms.2.1) hterms
  obtain ⟨dispute, hdispute, hinitiator⟩ := Option.map_eq_some_iff.mp hopened
  rw [← hid] at hdispute
  rw [replay, Store.load, hrow, Option.bind_some, hdispute, Option.map_some, Option.map_some]
  simp only [hinitiator, h.messages, buildState_terms hterms]

end Reads

end Serbero
