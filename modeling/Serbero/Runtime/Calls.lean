import Serbero.Runtime.Contract
import Serbero.Runtime.Effects

/-! # Every call keeps the contract

One lemma for each call that writes the core, and from them that a call made with what it needs
keeps the invariant and leaves the other threads what is theirs. -/

namespace Serbero

open Pool

/-- A candidate that passed is not being taken. -/
theorem Candidate.taking_of_ok {candidate : Candidate} (h : candidate.check = .ok ()) :
    candidate.taking = false := by
  by_contra htaking
  have htaking : candidate.taking = true := by simpa using htaking
  unfold check at h
  rw [if_pos htaking] at h
  repeat' split at h
  all_goals cases h

/-- A candidate that passed was notified and never had a session. -/
theorem Candidate.notified_of_ok {candidate : Candidate} (h : candidate.check = .ok ()) :
    candidate.lifecycle = .notified ∧ candidate.hadSession = false := by
  unfold check at h
  repeat' split at h
  all_goals try cases h
  next hnotified hsession _ =>
  exact ⟨by simpa using hnotified, by simpa using hsession⟩

namespace Core.Inv

variable {world : World}

/-- The session with an id, as the store finds it. -/
theorem session_eq (h : world.core.Inv) (id : SessionId) :
    world.store.session id = world.core.sessions[id]? := h.find_eq id

/-- Some row with this id is in a picked state when the session is. -/
theorem any_eq_true_iff (h : world.core.Inv) (id : SessionId) (picked : SessionState → Bool) :
    (world.store.sessions.any fun row => row.sessionId == id && picked row.state) = true ↔
      ∃ session, world.core.sessions[id]? = some session ∧ picked session.state = true := by
  rw [List.any_eq_true]
  constructor
  · rintro ⟨row, hrow, hpicked⟩
    rw [Bool.and_eq_true, beq_iff_eq] at hpicked
    exact ⟨row, hpicked.1 ▸ h.getElem?_of_mem hrow, hpicked.2⟩
  · rintro ⟨session, hsession, hpicked⟩
    have hid := h.numbered id session hsession
    exact ⟨session, List.mem_of_getElem? hsession, by simp [hid, hpicked]⟩

end Core.Inv

namespace Stepped

variable {world : World} {thread : Nat}

/-! ## Takes and revisions -/

/-- Claiming a dispute nobody is taking. -/
theorem claimTake (h : world.core.Inv) {id : DisputeId} (hknown : world.core.Knows id)
    (hfree : (world.ownTakes.any fun entry => entry.1 == id) = false) :
    Stepped (· = thread) world { world with ownTakes := world.ownTakes ++ [(id, thread)] } := by
  refine of_core (h.withTakes ?_ ?_ ?_ fun other _ dispute hmem => List.mem_append_left _ hmem) rfl
    (.refl _) fun _ _ _ hmem => hmem
  · rw [List.map_append, List.nodup_append]
    refine ⟨h.takes, by simp, ?_⟩
    intro taken htaken found hfound heq
    obtain ⟨entry, hentry, rfl⟩ := List.mem_map.mp htaken
    rw [List.map_singleton, List.mem_singleton] at hfound
    have := List.any_eq_false.mp hfree entry hentry
    simp [heq, hfound] at this
  · intro take htake
    rcases List.mem_append.mp htake with hold | hnew
    · exact h.takesKnown take hold
    · rw [List.mem_singleton.mp hnew]
      exact hknown
  · intro found session hsession hopening hnot
    obtain ⟨holder, hopened, htake⟩ := h.held found session hsession hopening hnot
    exact ⟨holder, hopened, List.mem_append_left _ htake⟩

/-- Releasing an own take whose opening is over. -/
theorem releaseTake (h : world.core.Inv) {id : DisputeId}
    (hown : (id, thread) ∈ world.ownTakes) (hsettled : world.core.Settled thread id) :
    Stepped (· = thread) world
      { world with ownTakes := world.ownTakes.filter fun entry => entry.1 != id } := by
  -- A dispute is taken by one thread at a time.
  have hholder : ∀ other, (id, other) ∈ world.ownTakes → other = thread := fun other hmem =>
    congrArg Prod.snd (List.inj_on_of_nodup_map h.takes hmem hown rfl)
  refine of_core (h.withTakes ?_ ?_ ?_ ?_) rfl (.refl _) fun _ _ _ hmem => hmem
  · exact h.takes.sublist (List.filter_sublist.map _)
  · exact fun take htake => h.takesKnown take (List.mem_of_mem_filter htake)
  · intro found session hsession hopening hnot
    obtain ⟨holder, hopened, htake⟩ := h.held found session hsession hopening hnot
    refine ⟨holder, hopened, List.mem_filter.mpr ⟨htake, ?_⟩⟩
    by_cases heq : session.disputeId = id
    · rw [heq] at htake
      rw [hholder holder htake] at hopened
      exact absurd (hsettled found session hopened hsession heq hopening) hnot
    · simpa using heq
  · intro other hother dispute hmem
    refine List.mem_filter.mpr ⟨hmem, ?_⟩
    by_cases heq : dispute = id
    · exact absurd (hholder other (heq ▸ hmem)) hother
    · simpa using heq

/-- Leaving an opening. -/
theorem stray (h : world.core.Inv) (own : Nat → Prop) (id : SessionId) :
    Stepped own world (world.stray thread id) := by
  unfold World.stray
  split
  · exact of_core (h.stray id own) rfl (.refl _) fun _ _ _ hmem => hmem
  · exact refl h

/-- A step followed by one on the world it leaves. -/
theorem trans {own : Nat → Prop} {later : World} {world' : World} (h : Stepped own world world')
    (h' : Stepped own world' later) : Stepped own world later where
  inv := h'.inv
  follows := h.follows.trans h'.follows
  leaves other hother :=
    (h.leaves other hother).trans h.follows h'.follows (h'.leaves other hother)

/-- The node publishes a revision it may publish. -/
theorem publish (h : world.core.Inv) {dispute : DisputeEvent} (own : Nat → Prop)
    (hcan : world.canPublish dispute = true) : Stepped own world (world.publish dispute) := by
  rw [World.canPublish, Bool.and_eq_true, beq_iff_eq, List.all_eq_true] at hcan
  refine of_core (h.publish own hcan.1 fun earlier hearlier hdispute => ?_) rfl (.refl _)
    fun _ _ _ hmem => hmem
  have := hcan.2 earlier hearlier
  simpa [hdispute] using this

/-! ## Openings -/

/-- The session of an own take, when the dispute has no live one. -/
theorem withSession (h : world.core.Inv) (row : Session) (thread : Nat)
    (hid : row.sessionId = world.core.sessions.length) (hstate : row.state = .opening)
    (hreason : row.handoffReason = none) (hown : (row.disputeId, thread) ∈ world.ownTakes)
    (hlive : world.store.liveForDispute row.disputeId = none) :
    Stepped (· = thread) world (world.withSession thread row) := by
  refine of_core (h.insertSession row thread hid hstate hreason hown ?_) rfl
    { Log.Grows.refl world.log with insertedAt := List.prefix_append _ _ } fun _ _ _ hmem => hmem
  intro other hother hotherLive hdispute
  have := List.find?_eq_none.mp hlive other hother
  rw [hotherLive, Bool.and_true, beq_iff_eq] at this
  exact this hdispute

/-- The end of an opening. -/
theorem activate (h : world.core.Inv) {id : SessionId} (hown : world.core.OwnOpening thread id)
    (observers : List Nat) (dispute : DisputeId) (now : Int) :
    Stepped (· = thread) world (world.activate observers dispute id now) := by
  refine of_core (h.activate now hown) ?_ ?_ fun _ _ _ hmem => hmem
  · simp only [World.core, World.activate, Store.queueForObservers_sessions, Store.queueForObservers_disputes,
      Store.queueForObservers_marks]
    rfl
  · refine { Log.Grows.refl world.log with messages := ?_, evaluations := ?_, activated := ?_ }
    · simp only [World.log, World.activate, Store.queueForObservers_messages]
      exact List.prefix_rfl
    · simp only [World.log, World.activate, Store.queueForObservers_evaluations]
      exact List.prefix_rfl
    · simp only [World.log, World.activate]
      split
      · exact List.prefix_append _ _
      · exact List.prefix_rfl

/-! ## Hand-offs and guidance -/

/-- What the transaction of a failed opening does to the tables besides handing off. -/
theorem abandonOpening_spec (store : Store) (observers : List Nat) (dispute : DisputeId)
    (id : Option SessionId) (reason : String) (now : Int) :
    let handed := match id with
      | some id => (store.handOff id .openingFailed now).2
      | none => store
    let store' := store.abandonOpening observers dispute id reason now
    store'.sessions = handed.sessions ∧ store'.disputes = store.disputes ∧
      store'.messages = store.messages ∧ store'.evaluations = store.evaluations ∧
      ∃ failed pending : Event, store'.marks = store.marks ++ [failed, pending] ∧
        failed.sessionId = id ∧ failed.kind = .mediationFailed reason ∧
        pending.sessionId = id ∧ pending.kind = .openingNoticePending := by
  cases id with
  | none =>
    simp only [Store.abandonOpening, Store.queueForObservers_sessions,
      Store.queueForObservers_disputes, Store.queueForObservers_messages,
      Store.queueForObservers_evaluations, Store.queueForObservers_marks]
    exact ⟨rfl, rfl, rfl, rfl, _, _, Store.append_append_marks _ rfl rfl, rfl, rfl, rfl, rfl⟩
  | some id =>
    simp only [Store.abandonOpening, Store.queueForObservers_sessions,
      Store.queueForObservers_disputes, Store.queueForObservers_messages,
      Store.queueForObservers_evaluations, Store.queueForObservers_marks]
    exact ⟨rfl, rfl, rfl, rfl, _, _, Store.append_append_marks _ rfl rfl, rfl, rfl, rfl, rfl⟩

/-- The marks of a failed opening document no claim of `Mediator::hand_off` and no guidance. -/
theorem kinds_of_abandon {reason : String} {failed pending : Event}
    (hfailed : failed.kind = .mediationFailed reason)
    (hpending : pending.kind = .openingNoticePending) :
    ∀ event ∈ [failed, pending], event.kind.isHandoff = false ∧
      event.kind.isHandoffBrief = false ∧ event.kind.isGuided = false ∧
      Store.resolution event = none := by
  intro event hevent
  simp only [List.mem_cons, List.not_mem_nil, or_false] at hevent
  rcases hevent with rfl | rfl
  · simp [Store.resolution, hfailed, EventKind.isHandoff, EventKind.isHandoffBrief,
      EventKind.isGuided]
  · simp [Store.resolution, hpending, EventKind.isHandoff, EventKind.isHandoffBrief,
      EventKind.isGuided]

/-- The transaction of an opening that failed. -/
theorem abandon (h : world.core.Inv) {id : Option SessionId}
    (hown : ∀ known, id = some known → world.core.OwnOpening thread known) (observers : List Nat)
    (dispute : DisputeId) (reason : String) (now : Int) :
    Stepped (· = thread) world (world.abandon observers dispute id reason now) := by
  obtain ⟨hsessions, hdisputes, hmessages, hevaluations, failed, pending, hmarks, hfailedId,
    hfailed, hpendingId, hpending⟩ :=
      abandonOpening_spec world.store observers dispute id reason now
  have hkinds := kinds_of_abandon hfailed hpending
  have hlog : ∀ claims, world.log.Grows ({ world with
      store := world.store.abandonOpening observers dispute id reason now
      claims := claims } : World).log :=
    fun _ => .of_eq (by simp only [World.log, hmessages, hevaluations])
  have hids : ∀ event ∈ [failed, pending], event.sessionId = id := by
    intro event hevent
    simp only [List.mem_cons, List.not_mem_nil, or_false] at hevent
    rcases hevent with rfl | rfl
    · exact hfailedId
    · exact hpendingId
  cases id with
  | none =>
    refine of_core (h.addMarks [failed, pending] ?_ hkinds _) ?_ (hlog _)
      fun _ _ _ hmem => hmem
    · intro event hevent found hfound
      rw [hids event hevent] at hfound
      cases hfound
    · simp only [World.core, World.abandon, hsessions, hdisputes, hmarks]
  | some id =>
    obtain ⟨hopened, session, hsession, hstate⟩ := hown id rfl
    have hclaimed := h.any_eq_true_iff id SessionState.isMediating
    rcases hstate with hopening | hterminal
    · -- The opening session is claimed.
      have hmediating : session.state.isMediating = true := by
        rw [hopening]
        rfl
      have hany : (world.store.handOff id .openingFailed now).1 = true :=
        hclaimed.mpr ⟨session, hsession, hmediating⟩
      have hguided : countMarks [failed, pending] id EventKind.isGuided = 0 :=
        countMarks_eq_zero fun event hevent _ => (hkinds event hevent).2.2.1
      refine of_core (h.handOff hsession hmediating .openingFailed now .abandon
        [failed, pending] hids hguided
        (fun event hevent => (hkinds event hevent).2.2.2) ?_ fun _ => hopened) ?_ (hlog _)
        fun _ _ _ hmem => hmem
      · refine ⟨⟨failed, by simp, hfailedId, reason, hfailed⟩,
          ⟨pending, by simp, hpendingId, hpending⟩, ?_⟩
        exact Core.exists_handedOff h hsession hmediating .openingFailed now
      · simp only [World.core, World.abandon, hsessions, hdisputes, hmarks, hany, if_true]
        rfl
    · -- It ended before: nothing is claimed.
      have hnot : session.state.isMediating = false := by
        by_contra hmediating
        have := (SessionState.isMediating_iff_stage _).mp (by simpa using hmediating)
        rw [(SessionState.isTerminal_iff_stage _).mp hterminal] at this
        omega
      have hany : (world.store.handOff id .openingFailed now).1 = false := by
        by_contra hclaim
        rw [Bool.not_eq_false] at hclaim
        obtain ⟨row, hrow, hmediating⟩ := hclaimed.mp hclaim
        rw [hsession, Option.some.injEq] at hrow
        rw [← hrow, hnot] at hmediating
        exact absurd hmediating (by decide)
      refine of_core (h.addMarks [failed, pending] ?_ hkinds _) ?_ (hlog _)
        fun _ _ _ hmem => hmem
      · intro event hevent found hfound
        rw [hids event hevent, Option.some.injEq] at hfound
        exact hfound ▸ (List.getElem?_eq_some_iff.mp hsession).1
      · have hsame := h.updateOne_of_not hsession hnot fun row =>
          { row with state := .handedOff, handoffReason := some .openingFailed, updatedAt := now }
        simp only [World.core, World.abandon, hsessions, hdisputes, hmarks, hany,
          Bool.false_eq_true, if_false]
        exact congrArg (fun sessions => { world.core with
          sessions := sessions, marks := world.core.marks ++ [failed, pending] }) hsame

/-- What the transaction of a hand-off does to the tables when it claims. -/
theorem claimHandOff_spec {store : Store} {observers : List Nat} {session : Session}
    {reason : HandoffReason} {now pending : Int} {store' : Store}
    (h : store.claimHandOff observers session reason now = some (pending, store')) :
    (store.handOff session.sessionId reason now).1 = true ∧
      store'.sessions = (store.handOff session.sessionId reason now).2.sessions ∧
      store'.disputes = store.disputes ∧ store'.messages = store.messages ∧
      store'.evaluations = store.evaluations ∧
      ∃ handed brief : Event, store'.marks = store.marks ++ [handed, brief] ∧
        handed.sessionId = some session.sessionId ∧
        handed.kind = .handoff reason
          (Store.newestMessageId (store.listMessages session.sessionId)) ∧
        brief.sessionId = some session.sessionId ∧
        brief.kind = .briefPending (.handoff reason) := by
  obtain ⟨hclaimed, rfl⟩ := Store.claimHandOff_eq_some h
  simp only [Store.queueForObservers_sessions, Store.queueForObservers_disputes,
    Store.queueForObservers_messages, Store.queueForObservers_evaluations,
    Store.queueForObservers_marks]
  exact ⟨hclaimed, rfl, rfl, rfl, rfl, _, _, Store.append_append_marks _ rfl rfl, rfl, rfl, rfl,
    rfl⟩

/-- The transaction of a hand-off. -/
theorem handOff (h : world.core.Inv) {session : Session}
    (hknown : world.core.Known session.sessionId 1 session.disputeId) {observers : List Nat}
    {reason : HandoffReason} {now pending : Int} {store : Store}
    (hclaim : world.store.claimHandOff observers session reason now = some (pending, store)) :
    Stepped (· = thread) world
      { world with
        store := store
        claims := world.claims ++
          [(session.sessionId, .handOff reason
            (Store.newestMessageId (world.store.listMessages session.sessionId)))] } := by
  obtain ⟨hclaimed, hsessions, hdisputes, hmessages, hevaluations, handed, brief, hmarks,
    hhandedId, hhanded, hbriefId, hbrief⟩ := claimHandOff_spec hclaim
  obtain ⟨row, hrow, hmediating⟩ :=
    (h.any_eq_true_iff session.sessionId SessionState.isMediating).mp hclaimed
  obtain ⟨known, hfound, hstage, -⟩ := hknown
  rw [hrow, Option.some.injEq] at hfound
  have hids : ∀ event ∈ [handed, brief], event.sessionId = some session.sessionId := by
    intro event hevent
    simp only [List.mem_cons, List.not_mem_nil, or_false] at hevent
    rcases hevent with rfl | rfl
    · exact hhandedId
    · exact hbriefId
  have hdocumented := h.documented row (List.mem_of_getElem? hrow)
  have hnumber := h.numbered _ row hrow
  obtain ⟨-, hnoHandoff, hnoBrief⟩ := hdocumented.unclaimed
    (hdocumented.early ((SessionState.isMediating_iff_stage _).mp hmediating))
  rw [hnumber] at hnoHandoff hnoBrief
  have counted : ∀ kind : EventKind → Bool, countMarks [handed, brief] session.sessionId kind =
      [handed, brief].countP fun event => kind event.kind := by
    intro kind
    refine List.countP_congr fun event hevent => ?_
    simp [hids event hevent]
  refine of_core (h.handOff hrow hmediating reason now
    (.handOff reason (Store.newestMessageId (world.store.listMessages session.sessionId)))
    [handed, brief] hids ?_ ?_ ?_ ?_) ?_ (.of_eq ?_)
    fun _ _ _ hmem => hmem
  · rw [counted]
    simp [hhanded, hbrief, EventKind.isGuided]
  · intro event hevent
    simp only [List.mem_cons, List.not_mem_nil, or_false] at hevent
    rcases hevent with rfl | rfl
    · simp [Store.resolution, hhanded]
    · simp [Store.resolution, hbrief]
  · refine ⟨?_, ⟨handed, by simp, hhandedId, hhanded⟩, ?_, ⟨brief, by simp, hbriefId, hbrief⟩,
      Core.exists_handedOff h hrow hmediating reason now⟩
    · rw [countMarks_append, hnoHandoff, counted]
      simp [hhanded, hbrief, EventKind.isHandoff]
    · rw [countMarks_append, hnoBrief, counted]
      simp [hhanded, hbrief, EventKind.isHandoffBrief]
  · -- A session known to have been active is not opening.
    intro hopening
    rw [← hfound, hopening] at hstage
    exact absurd hstage (by decide)
  · simp only [World.core, hsessions, hdisputes, hmarks]
    rfl
  · simp only [World.log, hmessages, hevaluations]

/-- What the transaction of a guidance does to the tables when it claims. -/
theorem claimGuiding_spec {store : Store} {observers : List Nat} {session : Session}
    {path : Path} {now pending : Int} {store' : Store}
    (h : store.claimGuiding observers session path now = some (pending, store')) :
    (store.startGuiding session.sessionId now).1 = true ∧
      store'.sessions = (store.startGuiding session.sessionId now).2.sessions ∧
      store'.disputes = store.disputes ∧ store'.messages = store.messages ∧
      store'.evaluations = store.evaluations ∧
      ∃ guided brief : Event, store'.marks = store.marks ++ [guided, brief] ∧
        guided.sessionId = some session.sessionId ∧ guided.kind = .guided path ∧
        brief.sessionId = some session.sessionId ∧ brief.kind = .briefPending (.guide path) := by
  obtain ⟨hclaimed, rfl⟩ := Store.claimGuiding_eq_some h
  simp only [Store.queueForObservers_sessions, Store.queueForObservers_disputes,
    Store.queueForObservers_messages, Store.queueForObservers_evaluations,
    Store.queueForObservers_marks]
  exact ⟨hclaimed, rfl, rfl, rfl, rfl, _, _, Store.append_append_marks _ rfl rfl, rfl, rfl, rfl,
    rfl⟩

/-- The transaction of a guidance. -/
theorem startGuiding (h : world.core.Inv) {session : Session} {observers : List Nat} {path : Path}
    {now pending : Int} {store : Store}
    (hclaim : world.store.claimGuiding observers session path now = some (pending, store)) :
    Stepped (· = thread) world { world with store := store } := by
  obtain ⟨hclaimed, hsessions, hdisputes, hmessages, hevaluations, guided, brief, hmarks,
    hguidedId, hguided, hbriefId, hbrief⟩ := claimGuiding_spec hclaim
  obtain ⟨row, hrow, hactive⟩ := (h.any_eq_true_iff session.sessionId (· == .active)).mp hclaimed
  have hids : ∀ event ∈ [guided, brief], event.sessionId = some session.sessionId := by
    intro event hevent
    simp only [List.mem_cons, List.not_mem_nil, or_false] at hevent
    rcases hevent with rfl | rfl
    · exact hguidedId
    · exact hbriefId
  have counted : ∀ kind : EventKind → Bool, countMarks [guided, brief] session.sessionId kind =
      [guided, brief].countP fun event => kind event.kind := by
    intro kind
    refine List.countP_congr fun event hevent => ?_
    simp [hids event hevent]
  refine of_core (h.startGuiding hrow (by simpa using hactive) now
    [guided, brief] hids ?_ ?_ ?_ ?_ thread) ?_ (.of_eq ?_) fun _ _ _ hmem => hmem
  · rw [counted]
    simp [hguided, hbrief, EventKind.isGuided]
  · rw [counted]
    simp [hguided, hbrief, EventKind.isHandoff]
  · rw [counted]
    simp [hguided, hbrief, EventKind.isHandoffBrief]
  · intro event hevent
    simp only [List.mem_cons, List.not_mem_nil, or_false] at hevent
    rcases hevent with rfl | rfl
    · simp [Store.resolution, hguided]
    · simp [Store.resolution, hbrief]
  · simp only [World.core, hsessions, hdisputes, hmarks]
    rfl
  · simp only [World.log, hmessages, hevaluations]

/-! ## Events and rows -/

/-- Appending an event that is no mark. -/
theorem append (h : world.core.Inv) (own : Nat → Prop) {new : NewEvent}
    (hkind : new.kind.isMark = false) :
    Stepped own world { world with store := world.store.append new } := by
  refine of_same h ?_ (.refl _) rfl
  simp only [World.core, Store.append_sessions, Store.append_disputes,
    Store.append_marks _ hkind]

/-- Recording a hold. -/
theorem recordHold (h : world.core.Inv) (own : Nat → Prop) {id : SessionId} {stage : Nat}
    {dispute : DisputeId} (hknown : world.core.Known id stage dispute) (cutoff : Option Int)
    (now : Int) (notices : List (SessionId × Party)) :
    Stepped own world
      { world with
        store := world.store.append ⟨dispute, some id, .held cutoff, now⟩
        holdNotices := notices } := by
  refine of_core (h.addMarks [world.store.eventRow ⟨dispute, some id, .held cutoff, now⟩]
    ?_ ?_ own) ?_ (.refl _) fun _ _ _ hmem => hmem
  · intro event hevent found hfound
    rw [List.mem_singleton.mp hevent] at hfound
    cases hfound
    exact hknown.lt
  · intro event hevent
    rw [List.mem_singleton.mp hevent]
    exact ⟨rfl, rfl, rfl, rfl⟩
  · simp only [World.core, Store.append_sessions, Store.append_disputes]
    rw [Store.append_marks_of_mark _ rfl]

/-- Reading the store. -/
theorem look (h : world.core.Inv) (own : Nat → Prop) : Stepped own world (world.look thread) :=
  .of_same h rfl { Log.Grows.refl world.log with looks := List.prefix_append _ _ } rfl

/-- An update of sessions that the core does not see. -/
theorem quiet (h : world.core.Inv) (own : Nat → Prop) {picked : Session → Bool}
    {change : Session → Session}
    (hchange : ∀ row, (change row).sessionId = row.sessionId ∧
      (change row).disputeId = row.disputeId ∧ (change row).openedAt = row.openedAt ∧
      (change row).state = row.state ∧ (change row).handoffReason = row.handoffReason) :
    Stepped own world { world with store := world.store.updateSessions picked change } := by
  have hquiet := h.quiet picked hchange
  refine of_core ⟨hquiet.1, hquiet.2, fun thread _ => ⟨fun _ hafter => hafter, ?_, fun _ hmem => hmem⟩⟩ rfl
    (.refl _) fun _ _ _ hmem => hmem
  intro id session later _ hsession hopening hlater
  simp only [List.getElem?_map, hsession, Option.map_some, Option.some.injEq] at hlater
  rw [← hlater]
  split
  · rw [(hchange session).2.2.2.1]
    exact Or.inl hopening
  · exact Or.inl hopening

/-- Recording a revision. -/
theorem record (h : world.core.Inv) (own : Nat → Prop) {dispute : DisputeEvent}
    (hpublished : dispute ∈ world.published) (now : Int) {recorded : List DisputeEvent}
    (hrecorded : world.recorded <+: recorded) :
    Stepped own world
      { world with store := (world.store.record dispute now).2, recorded := recorded } := by
  refine of_core (h.record hpublished now own) rfl ?_ fun _ _ _ hmem => hmem
  obtain ⟨hmessages, hevaluations, -⟩ := world.store.record_cases dispute now
  refine { Log.Grows.refl world.log with messages := ?_, evaluations := ?_, recorded := hrecorded }
  · simp only [World.log, hmessages]
    exact List.prefix_rfl
  · simp only [World.log, hevaluations]
    exact List.prefix_rfl

/-! ## Party messages -/

/-- The relay send, accepted or given up. -/
theorem sendEvent (h : world.core.Inv) {message : Passed} {sent : List Passed}
    {recording : List (Nat × Passed)} {notices : List (SessionId × Party)}
    (hsent : world.sent <+: sent) :
    Stepped (· = thread) world
      { world with
        sending := world.sending.erase (thread, message)
        sent := sent
        recording := recording
        holdNotices := notices } := by
  refine of_core (h.kept _) rfl { Log.Grows.refl world.log with sent := hsent } ?_
  intro other hother found hmem
  exact (List.mem_erase_of_ne fun heq => hother (congrArg Prod.fst heq)).mpr hmem

end Stepped

/-- A change made with what the call needs keeps the invariant and leaves the other threads what is
theirs. -/
theorem Makes.stepped {deployment : Deployment} {β : Type} {thread : Thread Task} {call : Call β}
    {world later : World} (hmakes : Makes deployment thread.number world call later)
    (h : world.core.Inv) (hneeds : Needs thread call world) :
    Stepped (· = thread.number) world later := by
  cases hmakes with
  | same => exact .refl h
  | read => exact .look h _
  | load => exact .look h _
  | claimTake hverdict => exact .claimTake h hneeds (Candidate.taking_of_ok hverdict)
  | releaseTake => exact .releaseTake h hneeds.1 hneeds.2
  | takeDispute hcan => exact .publish h _ hcan
  | insertSession hnone => exact .withSession h _ _ rfl rfl rfl hneeds hnone
  | @insertStray id info order now row strayed hnone hrow hstray =>
    subst hrow
    -- The session is inserted and then left behind: two changes of the core.
    have hinserted := Stepped.withSession h
      (openingSession world.store world.clock id info order now).row thread.number rfl rfl rfl hneeds
      hnone
    rw [← hstray]
    exact hinserted.trans (.stray hinserted.inv _ _)
  | @openChatStray id openChats strayed hstray =>
    have hopened : Stepped (· = thread.number) world { world with openChats := openChats } :=
      .of_same h rfl (.refl _) rfl
    rw [← hstray]
    exact hopened.trans (.stray hopened.inv _ _)
  | gate hallows =>
    exact .of_core (h.kept _) rfl
      { Log.Grows.refl world.log with passed := List.prefix_append _ _ }
      fun _ _ _ hmem => List.mem_append_left _ hmem
  | unsent => exact .sendEvent h List.prefix_rfl
  | sent => exact .sendEvent h (List.prefix_append _ _)
  | stored =>
    exact .of_same h rfl { Log.Grows.refl world.log with messages := List.prefix_append _ _ } rfl
  | activate => exact .activate h hneeds _ _ _
  | activateStray hstray => exact hstray ▸ .stray h _ _
  | abandon => exact .abandon h hneeds _ _ _ _
  | abandonStray hstray => exact hstray ▸ .stray h _ _
  | append => exact .append h _ hneeds
  | handOff hclaim => exact .handOff h hneeds hclaim
  | startGuiding hclaim => exact .startGuiding h hclaim
  | recordHold => exact .recordHold h _ hneeds _ _ _
  | setLanguage =>
    refine .quiet h _ fun row => ?_
    split <;> exact ⟨rfl, rfl, rfl, rfl, rfl⟩
  | countRound => exact .quiet h _ fun row => ⟨rfl, rfl, rfl, rfl, rfl⟩
  | insertEvaluation =>
    exact .of_same h rfl
      { Log.Grows.refl world.log with evaluations := List.prefix_append _ _ } rfl
  | sendDm =>
    exact .of_same h rfl { Log.Grows.refl world.log with told := List.prefix_append _ _ } rfl
  | record =>
    refine .record h _ hneeds _ ?_
    split
    · exact List.prefix_rfl
    · exact List.prefix_append _ _
  | markNotified =>
    exact .of_core (h.markNotified _ _ _) rfl (.refl _) fun _ _ _ hmem => hmem
  | @spawn task =>
    refine .of_core (h.withSpawned _ fun found hfound id status byParties heq => ?_) rfl (.refl _)
      fun _ _ _ hmem => hmem
    rcases List.mem_append.mp hfound with hold | hnew
    · exact h.closings found hold id status byParties heq
    · rw [List.mem_singleton.mp hnew] at heq
      exact hneeds id status byParties heq
  | _ => exact .of_same h rfl (.refl _) rfl

/-- **Every call, made with what it needs,** keeps the invariant and leaves the other threads what
is theirs. -/
theorem performCall_stepped (deployment : Deployment) {β : Type} (thread : Thread Task)
    (call : Call β) (oracle : Oracle) {world : World} (h : world.core.Inv)
    (hneeds : Needs thread call world) :
    Stepped (· = thread.number) world (performCall deployment thread call oracle world).2 :=
  (performCall_makes deployment thread call oracle world).stepped h hneeds

/-- A task that starts leaves every thread what is theirs. -/
theorem launch_stepped {thread : Thread Task} {world world' : World} (h : world.core.Inv)
    (hlaunch : launch thread world = some world') : Stepped (fun _ => False) world world' := by
  have erased : ∀ task, Stepped (fun _ => False) world
      { world with spawned := world.spawned.erase task } := fun task =>
    .of_core (h.withSpawned _ fun found hfound => h.closings found (List.mem_of_mem_erase hfound))
      rfl (.refl _) fun _ _ _ hmem => hmem
  unfold launch at hlaunch
  split at hlaunch
  · split at hlaunch
    · cases hlaunch
      exact .of_same h rfl (.refl _) rfl
    · cases hlaunch
  · split at hlaunch
    · cases hlaunch
      exact .of_same h rfl (.refl _) rfl
    · cases hlaunch
  · split at hlaunch
    · cases hlaunch
      exact .refl h
    · cases hlaunch
  · split at hlaunch
    · cases hlaunch
      exact erased _
    · cases hlaunch
  · split at hlaunch
    · cases hlaunch
      exact erased _
    · cases hlaunch
  · cases hlaunch
    exact .refl h

/-- What happens outside the tasks leaves every thread what is theirs. -/
theorem happen_stepped {deployment : Deployment} {happening : Happening} {world world' : World}
    (h : world.core.Inv) (hhappen : happen deployment happening world = some world') :
    Stepped (fun _ => False) world world' := by
  cases happens_of_happen hhappen with
  | publish _ hcan => exact .publish h _ hcan
  | received =>
    exact .of_same h rfl { Log.Grows.refl world.log with messages := List.prefix_append _ _ } rfl
  | _ => exact .of_same h rfl (.refl _) rfl

/-- A process that starts again keeps the invariant, and the world evolves. -/
theorem restart_follows {oracle : Oracle} {world : World} (h : world.core.Inv) :
    (restart oracle world).core.Inv ∧ world.Follows (restart oracle world) :=
  ⟨{ h with
      takes := List.nodup_nil
      held := fun id session hsession hopening hnot => by
        -- Every opening is left when the process ends.
        refine absurd (List.mem_append_right _ ?_) hnot
        refine List.mem_map.mpr ⟨session, List.mem_filter.mpr
          ⟨List.mem_of_getElem? hsession, ?_⟩, h.numbered id session hsession⟩
        rw [hopening]
        rfl
      takesKnown := fun _ htake => absurd htake List.not_mem_nil
      closings := fun _ htask => absurd htask List.not_mem_nil },
    { core :=
        { sessions := (Core.Follows.refl world.core).sessions
          resolved := fun _ hrow _ => hrow
          known := List.prefix_rfl
          openedBy := List.prefix_rfl
          strayed := List.prefix_append _ _
          claims := List.prefix_rfl
          marks := List.prefix_rfl
          published := List.prefix_rfl }
      log := .refl _ }⟩

/-! ## The contract -/

/-- The changes a task expects from everything but its own calls. -/
structure Rely (thread : Thread Task) (before after : World) : Prop where
  follows : before.Follows after
  leaves : World.Leaves thread.number before after

namespace Rely

variable {thread : Thread Task} {a b c : World}

/-- What others leave alone they may leave as it is. -/
theorem refl (world : World) : Rely thread world world :=
  ⟨.refl world, by apply Core.leaves_of_eq <;> rfl, fun _ hmem => hmem⟩

/-- What is left to a thread twice is left to it. -/
theorem trans (h : Rely thread a b) (h' : Rely thread b c) : Rely thread a c :=
  ⟨h.follows.trans h'.follows, h.leaves.trans h.follows h'.follows h'.leaves⟩

end Rely

/-- The contract of Serbero's tasks. -/
def contract (deployment : Deployment) (condition : Condition Call Task Oracle Happening World) :
    Contract (machine deployment) condition where
  inv world := world.core.Inv
  pre thread call world := Needs thread call world
  rely := Rely
  rely_refl _ world := .refl world
  rely_trans h h' := h.trans h'
  call_inv hinv hpre _ := (performCall_stepped deployment _ _ _ hinv hpre).inv
  call_rely hinv hpre _ hother :=
    have hstepped := performCall_stepped deployment _ _ _ hinv hpre
    ⟨hstepped.follows, hstepped.leaves _ hother⟩
  launch_inv hinv _ hlaunch := (launch_stepped hinv hlaunch).inv
  launch_rely hinv _ hlaunch :=
    have hstepped := launch_stepped hinv hlaunch
    ⟨hstepped.follows, hstepped.leaves _ id⟩
  happen_inv hinv _ hhappen := (happen_stepped hinv hhappen).inv
  happen_rely hinv _ hhappen :=
    have hstepped := happen_stepped hinv hhappen
    ⟨hstepped.follows, hstepped.leaves _ id⟩
  restart_inv hinv _ := (restart_follows hinv).1

end Serbero
