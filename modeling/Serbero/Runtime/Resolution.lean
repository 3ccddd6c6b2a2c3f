import Serbero.Runtime.Silence

/-! # Resolved disputes

A resolution ends the session that is live when it is recorded. What a resolved dispute keeps free of
live sessions and of openers is that no session is inserted for it later, and that no opener of it
is between its check and its send when the resolution is recorded. -/

namespace Serbero

open Pool Relation

variable {deployment : Deployment}

/-- The template is one that opens a session. -/
def Template.isOpener (template : Template) : Bool :=
  openers.any fun opener => opener.2 == template

/-- The dispute is stored as resolved. -/
def Store.isResolved (store : Store) (id : DisputeId) : Bool :=
  store.disputes.any fun row => row.disputeId == id && row.lifecycle == .resolved

/-- An opener of the dispute passed its check and is not sent yet. -/
def World.greets (world : World) (id : DisputeId) : Bool :=
  world.sending.any fun entry => entry.2.template.isOpener &&
    (world.store.session entry.2.sessionId).any fun session => session.disputeId == id

/-- No session is inserted for a resolved dispute, and no resolution is applied while an opener of
the dispute is about to be sent. -/
def timely : Condition Call Task Oracle Happening World where
  call _ request oracle world :=
    match request with
    | .insertSession id _ _ _ => oracle.fails.isSome || !world.store.isResolved id
    | .record dispute _ =>
      oracle.fails.isSome || !dispute.status.isFinal || !world.greets dispute.disputeId ||
        !(world.store.dispute dispute.disputeId).any fun row =>
          decide (row.statusAt < dispute.revisionAt)
    | _ => true
  launch _ _ _ := true
  happen _ _ := true
  restart _ _ := true

/-- The core's view of what is stored as resolved. -/
theorem isResolved_iff (world : World) (id : DisputeId) :
    world.store.isResolved id = true ↔ world.core.Resolved id := by
  rw [Store.isResolved, List.any_eq_true]
  constructor
  · rintro ⟨row, hrow, hpicked⟩
    rw [Bool.and_eq_true, beq_iff_eq, beq_iff_eq] at hpicked
    exact ⟨row, hrow, hpicked⟩
  · rintro ⟨row, hrow, hid, hresolved⟩
    exact ⟨row, hrow, by rw [hid, hresolved]; simp⟩

/-- The closing thanks and the hand-off notice open nothing. -/
theorem mediating_of_opener {session : Session} {template : Template}
    (h : Lawful session template) (hopener : template.isOpener = true) :
    session.state.isMediating = true := by
  rcases h with ⟨-, rfl⟩ | hmediating | ⟨-, -, rfl⟩
  · exact absurd hopener (by decide)
  · exact hmediating
  · exact absurd hopener (by decide)

/-- A session that Serbero mediates is live. -/
theorem isLive_of_isMediating {session : Session} (h : session.state.isMediating = true) :
    session.isLive = true := by
  cases hstate : session.state <;> simp_all [Session.isLive, SessionState.isMediating,
    SessionState.isTerminal]

/-- A resolved dispute has no live session, and no opener of it is about to be sent. -/
structure World.Rests (world : World) : Prop where
  ended : ∀ id, world.core.Resolved id → ∀ session ∈ world.core.sessions,
    session.disputeId = id → session.isLive = false
  unsent : ∀ entry ∈ world.sending, ∃ session,
    world.core.sessions[entry.2.sessionId]? = some session ∧
      (entry.2.template.isOpener = true → ¬world.core.Resolved session.disputeId)

namespace World.Rests

variable {world later : World}

/-- Nothing is inserted, resolved or let pass: the rows only move forward. -/
theorem advance (h : world.Rests) (hinv : world.core.Inv) (hinv' : later.core.Inv)
    (hfollows : world.Follows later) (hopened : later.openedBy = world.openedBy)
    (hresolved : ∀ id, later.core.Resolved id → world.core.Resolved id)
    (hsending : ∀ entry ∈ later.sending, entry ∈ world.sending) : later.Rests where
  ended id hid session hsession hdispute := by
    obtain ⟨i, hi⟩ := List.mem_iff_getElem?.mp hsession
    obtain ⟨before, hbefore, hbecomes⟩ := exists_before hinv hinv' hfollows hopened hi
    by_contra hlive
    have hended := h.ended id (hresolved id hid) before (List.mem_of_getElem? hbefore)
      (hbecomes.disputeId.symm.trans hdispute)
    rw [hbecomes.isLive_of_isLive (by simpa using hlive)] at hended
    cases hended
  unsent entry hentry := by
    obtain ⟨session, hsession, hnot⟩ := h.unsent entry (hsending entry hentry)
    obtain ⟨found, hfound, hbecomes, -⟩ := hfollows.core.sessions _ session hsession
    refine ⟨found, hfound, fun hopener => ?_⟩
    rw [hbecomes.disputeId]
    exact fun hlater => hnot hopener (hresolved _ hlater)

/-- What passes the gate was lawful for a live session. -/
theorem passes (h : world.Rests) (hinv : world.core.Inv) {thread : Thread Task} {rule : GateRule}
    {message : Passed} (hneeds : Needs thread (.gate rule message) world) {session : Session}
    (hsession : world.store.session message.sessionId = some session)
    (hallows : rule.allows session.state = true) :
    World.Rests { world with
      passed := world.passed ++ [message]
      sending := world.sending ++ [(thread.number, message)] } where
  ended := h.ended
  unsent entry hentry := by
    rcases List.mem_append.mp hentry with hold | hnew
    · exact h.unsent entry hold
    · rw [List.mem_singleton.mp hnew]
      have hlawful := lawful_of_gate hinv hneeds hsession hallows
      rw [hinv.session_eq] at hsession
      refine ⟨session, hsession, fun hopener hresolved => ?_⟩
      have hlive := isLive_of_isMediating (mediating_of_opener hlawful hopener)
      rw [h.ended _ hresolved session (List.mem_of_getElem? hsession) rfl] at hlive
      cases hlive

end World.Rests

/-- What recording a revision resolves: what was resolved before, or its own dispute when it is
final, and then it ended the dispute's session. -/
theorem resolved_of_record {world : World} (h : world.core.Inv) {dispute : DisputeEvent}
    (now : Int) {id : DisputeId}
    (hresolved : ({ world with store := (world.store.record dispute now).2 } : World).core.Resolved
      id) :
    world.core.Resolved id ∨ (id = dispute.disputeId ∧ dispute.status.isFinal = true ∧
      ((world.store.dispute dispute.disputeId = none) ∨
        (∃ existing, world.store.dispute dispute.disputeId = some existing ∧
          existing.statusAt < dispute.revisionAt)) ∧
      ∀ session ∈ (world.store.record dispute now).2.sessions, session.disputeId = id →
        session.isLive = false) := by
  obtain ⟨row, hrow, hid, hlifecycle⟩ := hresolved
  change row ∈ (world.store.record dispute now).2.disputes at hrow
  obtain ⟨-, -, hnone | hsame | hnewer⟩ := world.store.record_cases dispute now
  · obtain ⟨hunknown, hsessions, -, -, -, added, haddedId, -, haddedResolved, hdisputes⟩ := hnone
    rw [hdisputes] at hrow
    rcases List.mem_append.mp hrow with hold | hnew
    · exact Or.inl ⟨row, hold, hid, hlifecycle⟩
    · rw [List.mem_singleton.mp hnew] at hid hlifecycle
      refine Or.inr ⟨hid.symm.trans haddedId, haddedResolved.mp hlifecycle, Or.inl hunknown, ?_⟩
      -- An unknown dispute has no session.
      intro session hsession hdispute
      rw [hsessions] at hsession
      obtain ⟨known, hknown, hknownId⟩ := List.mem_map.mp (h.known session hsession)
      have := List.find?_eq_none.mp hunknown known hknown
      rw [hknownId, hdispute, ← hid, haddedId] at this
      simp at this
  · obtain ⟨existing, -, -, heq⟩ := hsame
    rw [heq] at hrow
    exact Or.inl ⟨row, hrow, hid, hlifecycle⟩
  · obtain ⟨existing, hexisting, hnewerAt, -, -, hrevised, hended⟩ := hnewer
    obtain ⟨hlength, hget⟩ := List.forall₂_iff_get.mp hrevised
    obtain ⟨i, hi, rfl⟩ := List.mem_iff_getElem.mp hrow
    have hrevise := hget i (hlength ▸ hi) hi
    have hmem : world.store.disputes[i] ∈ world.core.disputes := List.getElem_mem (hlength ▸ hi)
    by_cases hother : world.store.disputes[i].disputeId = dispute.disputeId
    · by_cases hbefore : world.store.disputes[i].lifecycle = .resolved
      · exact Or.inl ⟨_, hmem, hrevise.disputeId.symm.trans hid, hbefore⟩
      · have hfinal : dispute.status.isFinal = true := by
          by_contra hnot
          exact hrevise.unresolved hother hbefore (by simpa using hnot) hlifecycle
        have hidEq : id = dispute.disputeId :=
          hid.symm.trans (hrevise.disputeId.trans hother)
        refine Or.inr ⟨hidEq, hfinal, Or.inr ⟨existing, hexisting, hnewerAt⟩, ?_⟩
        intro session hsession hdispute
        by_contra hlive
        rw [Bool.not_eq_false] at hlive
        obtain ⟨hbecomes, -, -⟩ := h.ended rfl hended
        obtain ⟨before, hbeforeMem, hrowBecomes⟩ := Core.mem_became hbecomes hsession
        have hbeforeLive := hrowBecomes.isLive_of_isLive hlive
        have hbeforeDispute : before.disputeId = dispute.disputeId :=
          hrowBecomes.disputeId.symm.trans (hdispute.trans hidEq)
        -- The live session is the one that was found, and it was closed.
        have hfound : ∃ live, world.store.liveForDispute dispute.disputeId = some live := by
          rw [← Option.isSome_iff_exists, Store.liveForDispute, List.find?_isSome]
          exact ⟨before, hbeforeMem, by rw [hbeforeDispute, hbeforeLive]; simp⟩
        obtain ⟨live, hliveFound⟩ := hfound
        obtain ⟨hliveAt, hliveDispute, hliveLive⟩ := h.of_liveForDispute rfl hliveFound
        generalize (world.store.record dispute now).2.sessions = sessions at hended hsession
        cases hended with
        | kept hkept => exact absurd (hkept live hliveFound).1 (by rw [hfinal]; decide)
        | superseded _ hstatus _ =>
          rw [hstatus] at hfinal
          exact absurd hfinal (by decide)
        | @closed found hfoundLive _ =>
          rw [hliveFound, Option.some.injEq] at hfoundLive
          subst hfoundLive
          rcases Store.mem_updateSessions _ hsession with ⟨row, -, -, rfl⟩ | ⟨hold, hnot⟩
          · simp [Session.isLive, SessionState.isTerminal] at hlive
          · -- Any other live session of the dispute would be a second one.
            have hsame : session = live := (orderly_of_inv h).oneLive session hold live
              (List.mem_of_getElem? hliveAt) hlive hliveLive
              ((hdispute.trans hidEq).trans hliveDispute.symm)
            rw [hsame, hliveLive] at hnot
            simp at hnot
    · have hsame : (world.store.record dispute now).2.disputes[i] = world.store.disputes[i] :=
        hrevise.other hother
      rw [hsame] at hlifecycle hid
      exact Or.inl ⟨_, hmem, hid, hlifecycle⟩

namespace World.Rests

variable {world later : World} {thread : Thread Task}

/-- Recording a revision, which resolves a dispute only when no opener of it is about to be
sent. -/
theorem records (h : world.Rests) (hinv : world.core.Inv) {dispute : DisputeEvent} {now : Int}
    (hneeds : Needs thread (.record dispute now) world)
    (htimely : (!dispute.status.isFinal || !world.greets dispute.disputeId ||
      !(world.store.dispute dispute.disputeId).any fun row =>
        decide (row.statusAt < dispute.revisionAt)) = true) (recorded : List DisputeEvent) :
    World.Rests { world with
      store := (world.store.record dispute now).2, recorded := recorded } := by
  have hkept := hinv.record hneeds now fun _ => False
  have hlength : (world.store.record dispute now).2.sessions.length =
      world.store.sessions.length := hkept.inv.openers.symm.trans hinv.openers
  constructor
  · intro id hresolved session hsession hdispute
    rcases resolved_of_record hinv now hresolved with hbefore | ⟨-, -, -, hended⟩
    · obtain ⟨i, hi⟩ := List.mem_iff_getElem?.mp hsession
      have hlt : i < world.core.sessions.length :=
        hlength ▸ (List.getElem?_eq_some_iff.mp hi).1
      obtain ⟨found, hfound, hbecomes, -⟩ :=
        hkept.follows.sessions i _ (List.getElem?_eq_getElem hlt)
      rw [show (world.store.record dispute now).2.sessions[i]? = _ from hi,
        Option.some.injEq] at hfound
      subst hfound
      by_contra hlive
      have hover := h.ended id hbefore _ (List.getElem_mem hlt)
        (hbecomes.disputeId.symm.trans hdispute)
      rw [hbecomes.isLive_of_isLive (by simpa using hlive)] at hover
      cases hover
    · exact hended session hsession hdispute
  · intro entry hentry
    obtain ⟨session, hsession, hnot⟩ := h.unsent entry hentry
    obtain ⟨found, hfound, hbecomes, -⟩ := hkept.follows.sessions _ session hsession
    refine ⟨found, hfound, fun hopener hresolved => ?_⟩
    rw [hbecomes.disputeId] at hresolved
    rcases resolved_of_record hinv now hresolved with hbefore | ⟨hid, hfinal, hnewer, -⟩
    · exact hnot hopener hbefore
    · -- The opener is about to be sent for a dispute that is resolved now.
      have hgreets : world.greets dispute.disputeId = true := by
        rw [World.greets, List.any_eq_true]
        refine ⟨entry, hentry, ?_⟩
        rw [hinv.session_eq, hsession, hopener]
        simp [hid]
      rcases hnewer with hunknown | ⟨existing, hexisting, hnewerAt⟩
      · obtain ⟨row, hrow, hrowId⟩ :=
          List.mem_map.mp (hinv.known session (List.mem_of_getElem? hsession))
        have := List.find?_eq_none.mp hunknown row hrow
        rw [hrowId, hid] at this
        simp at this
      · simp [hfinal, hgreets, hexisting, hnewerAt] at htimely

/-- Inserting the session of a dispute that is not resolved. -/
theorem inserts (h : world.Rests) (opener : Nat) (row : Session)
    (hnot : ¬world.core.Resolved row.disputeId) : (world.withSession opener row).Rests where
  ended id hresolved session hsession hdispute := by
    rcases List.mem_append.mp hsession with hold | hnew
    · exact h.ended id hresolved session hold hdispute
    · rw [List.mem_singleton.mp hnew] at hdispute
      exact absurd (hdispute ▸ hresolved) hnot
  unsent entry hentry := by
    obtain ⟨session, hsession, hopener⟩ := h.unsent entry hentry
    refine ⟨session, ?_, hopener⟩
    change (world.core.sessions ++ [row])[entry.2.sessionId]? = _
    rw [List.getElem?_append_left (List.getElem?_eq_some_iff.mp hsession).1]
    exact hsession

/-- Leaving an opening. -/
theorem strays (h : world.Rests) (number : Nat) (id : SessionId) :
    (world.stray number id).Rests := by
  unfold World.stray
  split
  · exact ⟨h.ended, h.unsent⟩
  · exact h

/-- **One move** keeps resolved disputes at rest. -/
theorem of_moves (h : world.Rests) (hinv : world.core.Inv)
    (hmove : (contract deployment timely).Moves world later) : later.Rests := by
  obtain ⟨hinv', hfollows⟩ := follows_of_moves hmove
  cases effect_of_moves hmove with
  | quiet hquiet =>
    exact h.advance hinv hinv' hfollows (congrArg Traces.openedBy hquiet.traces) hquiet.resolved
      fun entry hentry => by
        rw [← show later.sending = world.sending from congrArg Traces.sending hquiet.traces]
        exact hentry
  | restart _ =>
    exact h.advance hinv hinv' hfollows rfl (fun _ hresolved => hresolved)
      fun _ hentry => absurd hentry List.not_mem_nil
  | @call β thread request oracle hleaves hneeds hcond =>
    cases request with
    | gate rule message =>
      rcases gate_cases deployment thread rule message oracle world with hsame |
        ⟨⟨session, hsession, hallows⟩, hpassed⟩
      · rw [hsame]
        exact h
      · rw [hpassed]
        exact h.passes hinv hneeds hsession hallows
    | sendEvent message =>
      simp only [performCall, World.sendEvent]
      split
      -- The answer of the relay ends the send, whether the event was published or not.
      · exact ⟨h.ended, fun entry hentry => h.unsent entry (List.mem_of_mem_erase hentry)⟩
      · exact ⟨h.ended, fun entry hentry => h.unsent entry (List.mem_of_mem_erase hentry)⟩
    | record dispute now =>
      simp only [performCall, World.orFail]
      split
      · exact h
      · next hfails =>
        refine h.records hinv hneeds ?_ _
        simpa [timely, hfails] using hcond
    | openChat id =>
      simp only [performCall, World.openChat]
      split
      · exact h.strays _ _
      · refine World.Rests.strays ?_ _ _
        exact ⟨h.ended, h.unsent⟩
      · exact ⟨h.ended, h.unsent⟩
    | activate dispute id now =>
      revert hinv' hfollows
      simp only [performCall]
      split
      · exact fun _ _ => h.strays _ _
      -- Writing the session's own rows leaves the dispute's row as it was.
      · exact fun hinv' hfollows => h.advance hinv hinv' hfollows rfl
          (fun found hresolved => by
            obtain ⟨row, hrow, hrest⟩ := hresolved
            simp only [World.core, World.activate, Store.queueForObservers_disputes] at hrow
            exact ⟨row, hrow, hrest⟩) fun _ hentry => hentry
    | abandon dispute id reason now =>
      revert hinv' hfollows
      simp only [performCall]
      split
      · intro _ _
        cases id with
        | none => exact h
        | some id => exact h.strays _ _
      · exact fun hinv' hfollows => h.advance hinv hinv' hfollows rfl
          (fun found hresolved => by
            obtain ⟨row, hrow, hrest⟩ := hresolved
            obtain ⟨-, hdisputes, -⟩ := Stepped.abandonOpening_spec world.store
              deployment.observers dispute id reason now
            simp only [World.core, World.abandon, hdisputes] at hrow
            exact ⟨row, hrow, hrest⟩) fun _ hentry => hentry
    | insertSession id info order now =>
      rcases insertSession_cases deployment thread id info order now oracle world with hsame |
        ⟨hfails, -, hinserted⟩
      · rw [hsame]
        exact h
      · have hnot : ¬world.core.Resolved id := by
          rw [← isResolved_iff]
          simpa [timely, hfails] using hcond
        rcases hinserted with ⟨-, hlater⟩ | ⟨-, hlater⟩
        · rw [hlater]
          exact h.inserts _ _ hnot
        · rw [hlater]
          exact (h.inserts _ _ hnot).strays _ _
    | _ => cases hleaves

end World.Rests

/-- What a timely run sends from some point on: no opener of a dispute that is resolved there. -/
structure SentSince (start later : World) : Prop where
  inv : later.core.Inv
  rests : later.Rests
  follows : start.Follows later
  sent : ∃ more, later.sent = start.sent ++ more ∧ ∀ message ∈ more,
    message.template.isOpener = true → ∃ session,
      later.core.sessions[message.sessionId]? = some session ∧
        ¬start.core.Resolved session.disputeId

/-- **Every timely run** keeps resolved disputes at rest and sends no opener for them. -/
theorem sentSince_of_run {start later : World} (hinv : start.core.Inv) (hrests : start.Rests)
    (hrun : ReflTransGen (contract deployment timely).Moves start later) :
    SentSince start later := by
  refine Contract.Moves.run_induction (SentSince start) ?_ hrun
    ⟨hinv, hrests, .refl start, [], by simp, by simp⟩
  rintro mid later ⟨hmid, hmidRests, hfollows, more, hsent, hopeners⟩ hmove
  obtain ⟨hlater, hfollows'⟩ := follows_of_moves hmove
  refine ⟨hlater, hmidRests.of_moves hmid hmove, hfollows.trans hfollows', ?_⟩
  have hmove' : ∀ (message : Passed) session,
      mid.core.sessions[message.sessionId]? = some session →
        ¬start.core.Resolved session.disputeId → ∃ found,
          later.core.sessions[message.sessionId]? = some found ∧
            ¬start.core.Resolved found.disputeId := by
    intro message session hsession hnot
    obtain ⟨found, hfound, hbecomes, -⟩ := hfollows'.core.sessions _ session hsession
    exact ⟨found, hfound, hbecomes.disputeId ▸ hnot⟩
  rcases sent_of_moves hmove with hsame | ⟨entry, hentry, hadded⟩
  · refine ⟨more, hsame.trans hsent, fun message hmessage hopener => ?_⟩
    obtain ⟨session, hsession, hnot⟩ := hopeners message hmessage hopener
    exact hmove' message session hsession hnot
  · refine ⟨more ++ [entry.2], by rw [hadded, hsent, List.append_assoc], ?_⟩
    intro message hmessage hopener
    rcases List.mem_append.mp hmessage with hold | hnew
    · obtain ⟨session, hsession, hnot⟩ := hopeners message hold hopener
      exact hmove' message session hsession hnot
    · -- The message sent now was checked for a dispute that is not resolved even now.
      rw [List.mem_singleton.mp hnew] at hopener ⊢
      obtain ⟨session, hsession, hnot⟩ := hmidRests.unsent entry hentry
      exact hmove' entry.2 session hsession fun hresolved =>
        hnot hopener (hresolved.mono hfollows.core)

/-- Nothing was resolved at the start. -/
theorem rests_start (clock : Int) : (World.start clock).Rests :=
  ⟨fun _ _ _ hsession => absurd hsession List.not_mem_nil,
    fun _ hentry => absurd hentry List.not_mem_nil⟩

/-- **A resolved dispute has no live session** in any state a timely run reaches, and from any such
state on no opener is sent for a dispute that is resolved there. -/
theorem resolved_at_rest {clock : Int} {conf : Conf Call String Task World}
    (hrun : (machine deployment).RunsTo timely (Serbero.start clock) conf) :
    (∀ row ∈ conf.world.store.disputes, row.lifecycle = .resolved →
      ∀ session ∈ conf.world.store.sessions, session.disputeId = row.disputeId →
        session.isLive = false) ∧
    ∀ conf', (machine deployment).RunsTo timely conf conf' →
      ∃ more, conf'.world.sent = conf.world.sent ++ more ∧ ∀ message ∈ more,
        message.template.isOpener = true → ∃ session,
          conf'.world.store.session message.sessionId = some session ∧
            conf.world.store.isResolved session.disputeId = false := by
  have hstart : (contract deployment timely).Kept (Serbero.start clock) :=
    Contract.kept_of_start (inv_start clock)
  obtain ⟨hkept, hmoves⟩ := hstart.run (launches deployment timely) hrun
  have hrests := (sentSince_of_run (inv_start clock) (rests_start clock) hmoves).rests
  constructor
  · exact fun row hrow hresolved session hsession hdispute =>
      hrests.ended _ ⟨row, hrow, rfl, hresolved⟩ session hsession hdispute
  · intro conf' hlater
    have hsince := sentSince_of_run hkept.1 hrests
      (hkept.run (launches deployment timely) hlater).2
    obtain ⟨more, hsent, hopeners⟩ := hsince.sent
    refine ⟨more, hsent, fun message hmessage hopener => ?_⟩
    obtain ⟨session, hsession, hnot⟩ := hopeners message hmessage hopener
    refine ⟨session, (hsince.inv.session_eq _).trans hsession, ?_⟩
    rw [← isResolved_iff] at hnot
    simpa using hnot

/-- The resolved session is at rest. -/
theorem resolved_at_rest_closed :
    let closedConf := (machine smallDeployment).after timely (Serbero.start 1000)
      (openedSteps ++ closedSteps)
    (∀ row ∈ closedConf.world.store.disputes, row.lifecycle = .resolved →
      ∀ session ∈ closedConf.world.store.sessions, session.disputeId = row.disputeId →
        session.isLive = false) ∧
    ∀ conf', (machine smallDeployment).RunsTo timely closedConf conf' →
      ∃ more, conf'.world.sent = closedConf.world.sent ++ more ∧ ∀ message ∈ more,
        message.template.isOpener = true → ∃ session,
          conf'.world.store.session message.sessionId = some session ∧
            closedConf.world.store.isResolved session.disputeId = false :=
  resolved_at_rest ((machine smallDeployment).runsTo_after (by decide +kernel))

/-- The parties resolve the dispute after the take and before the session is inserted. -/
def resolvedSteps : List (Choice Task Oracle Happening) :=
  takenSteps ++ closedSteps ++ quietly 2 2

/-- The session of a dispute that was resolved before its insertion is live. -/
theorem not_resolved_at_rest :
    ¬∀ conf, (machine smallDeployment).RunsTo Condition.always (Serbero.start 1000) conf →
      ∀ row ∈ conf.world.store.disputes, row.lifecycle = .resolved →
        ∀ session ∈ conf.world.store.sessions, session.disputeId = row.disputeId →
          session.isLive = false := by
  intro h
  have hrests := h ((machine smallDeployment).after Condition.always (Serbero.start 1000)
    resolvedSteps) ((machine smallDeployment).runsTo_after (by decide +kernel))
  revert hrests
  decide +kernel

end Serbero
