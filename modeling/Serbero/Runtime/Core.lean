import Serbero.Runtime.World
import Serbero.Store.Evolution

/-! # The core of the world

The tables and the memory that the life cycle of sessions depends on, the invariant they keep, and
how they evolve. A call that touches nothing of the core keeps the invariant for free. -/

namespace Serbero

/-- The part of the world that the life cycle of sessions depends on. -/
structure Core where
  sessions : List Session
  disputes : List Dispute
  marks : List Event
  published : List DisputeEvent
  ownTakes : List (DisputeId × Nat)
  spawned : List Task
  openedBy : List Nat
  strayed : List SessionId
  claims : List (SessionId × Claimer)

/-- The core of a world. -/
def World.core (world : World) : Core :=
  { sessions := world.store.sessions
    disputes := world.store.disputes
    marks := world.store.marks
    published := world.published
    ownTakes := world.ownTakes
    spawned := world.spawned
    openedBy := world.openedBy
    strayed := world.strayed
    claims := world.claims }

/-- The dispute's life cycle is `resolved`. -/
def Core.Resolved (core : Core) (id : DisputeId) : Prop :=
  ∃ row ∈ core.disputes, row.disputeId = id ∧ row.lifecycle = .resolved

/-- The dispute is resolved, and by the parties or not. -/
def Core.ResolvedBy (core : Core) (id : DisputeId) (byParties : Bool) : Prop :=
  ∃ row ∈ core.disputes, row.disputeId = id ∧ row.lifecycle = .resolved ∧
    row.status.resolvedByParties = byParties

/-- The dispute is stored. -/
def Core.Knows (core : Core) (id : DisputeId) : Prop :=
  id ∈ core.disputes.map Dispute.disputeId

/-- How many claims of a session's hand-off there were. -/
def countClaims (claims : List (SessionId × Claimer)) (id : SessionId) : Nat :=
  claims.countP fun claim => claim.1 == id

/-- The claims of two logs are counted one after the other. -/
theorem countClaims_append (claims more : List (SessionId × Claimer)) (id : SessionId) :
    countClaims (claims ++ more) id = countClaims claims id + countClaims more id :=
  List.countP_append

/-- What the claims and marks say about a session. -/
structure Session.Documented (claims : List (SessionId × Claimer)) (marks : List Event)
    (session : Session) : Prop where
  early : session.state.stage < 3 → session.handoffReason = none
  handed : session.state = .handedOff → session.handoffReason ≠ none
  unclaimed : session.handoffReason = none →
    countClaims claims session.sessionId = 0 ∧
      countMarks marks session.sessionId EventKind.isHandoff = 0 ∧
      countMarks marks session.sessionId EventKind.isHandoffBrief = 0
  claimed : session.handoffReason ≠ none → countClaims claims session.sessionId = 1
  notGuided : session.state.stage < 2 → countMarks marks session.sessionId EventKind.isGuided = 0
  guidedOnce : countMarks marks session.sessionId EventKind.isGuided ≤ 1
  guiding : session.state = .guiding → countMarks marks session.sessionId EventKind.isGuided = 1

/-- What a claim leaves behind: `Mediator::hand_off` one hand-off event with the cutoff and one
pending brief, `abandon` the failure and the pending notice; both the reason. -/
def Logged (sessions : List Session) (marks : List Event) (claim : SessionId × Claimer) : Prop :=
  match claim.2 with
  | .handOff reason last =>
    countMarks marks claim.1 EventKind.isHandoff = 1 ∧
      (∃ event ∈ marks, event.sessionId = some claim.1 ∧ event.kind = .handoff reason last) ∧
      countMarks marks claim.1 EventKind.isHandoffBrief = 1 ∧
      (∃ event ∈ marks, event.sessionId = some claim.1 ∧
        event.kind = .briefPending (.handoff reason)) ∧
      ∃ session ∈ sessions, session.sessionId = claim.1 ∧ session.handoffReason = some reason
  | .abandon =>
    (∃ event ∈ marks, event.sessionId = some claim.1 ∧ ∃ why, event.kind = .mediationFailed why) ∧
      (∃ event ∈ marks, event.sessionId = some claim.1 ∧ event.kind = .openingNoticePending) ∧
      ∃ session ∈ sessions, session.sessionId = claim.1 ∧
        session.handoffReason = some .openingFailed

/-- What holds of the core between any two steps. -/
structure Core.Inv (core : Core) : Prop where
  /-- The rows of sessions and disputes. -/
  numbered : ∀ (i : Nat) session, core.sessions[i]? = some session → session.sessionId = i
  oneLive : core.sessions.Pairwise fun a b =>
    a.isLive = true → b.isLive = true → a.disputeId ≠ b.disputeId
  openers : core.openedBy.length = core.sessions.length
  disputes : (core.disputes.map Dispute.disputeId).Nodup
  takes : (core.ownTakes.map Prod.fst).Nodup
  known : ∀ session ∈ core.sessions, core.Knows session.disputeId
  takesKnown : ∀ take ∈ core.ownTakes, core.Knows take.1
  closed : ∀ session ∈ core.sessions, session.state = .closed → core.Resolved session.disputeId
  /-- The thread that opens a session holds the take of its dispute. -/
  held : ∀ (id : SessionId) session, core.sessions[id]? = some session →
    session.state = .opening → id ∉ core.strayed →
      ∃ thread, core.openedBy[id]? = some thread ∧ (session.disputeId, thread) ∈ core.ownTakes
  /-- The documents of sessions. -/
  documented : ∀ session ∈ core.sessions, session.Documented core.claims core.marks
  logged : ∀ claim ∈ core.claims, Logged core.sessions core.marks claim
  claimsKnown : ∀ claim ∈ core.claims, claim.1 < core.sessions.length
  marksKnown : ∀ event ∈ core.marks, ∀ id, event.sessionId = some id → id < core.sessions.length
  /-- Revisions are counted, and a final one is the last of its dispute. -/
  counted : ∀ (i : Nat) event, core.published[i]? = some event → event.number = i
  ordered : core.published.Pairwise fun a b =>
    a.disputeId = b.disputeId → a.status.isFinal = false ∧ a.revisionAt ≤ b.revisionAt
  final : ∀ row ∈ core.disputes, row.lifecycle = .resolved →
    ∃ event ∈ core.published, event.disputeId = row.disputeId ∧ event.status.isFinal = true
  newest : ∀ row ∈ core.disputes, row.lifecycle = .resolved → ∀ event ∈ core.published,
    event.disputeId = row.disputeId → event.revisionAt ≤ row.statusAt
  /-- A closing has the outcome of its dispute. -/
  resolutions : ∀ event ∈ core.marks, ∀ resolution, Store.resolution event = some resolution →
    core.ResolvedBy resolution.disputeId resolution.byParties
  closings : ∀ task ∈ core.spawned, ∀ id status byParties,
    task = .finish id status byParties → core.ResolvedBy id byParties

/-- How the core evolves: sessions move forward and none ends once its dispute is resolved, a
resolved dispute stays as it is, and records are only added. -/
structure Core.Follows (before after : Core) : Prop where
  sessions : ∀ (i : Nat) session, before.sessions[i]? = some session →
    ∃ later, after.sessions[i]? = some later ∧ session.Becomes later ∧
      (session.isLive = true → later.isLive = false → ¬before.Resolved session.disputeId)
  resolved : ∀ row ∈ before.disputes, row.lifecycle = .resolved → row ∈ after.disputes
  known : before.disputes.map Dispute.disputeId <+: after.disputes.map Dispute.disputeId
  openedBy : before.openedBy <+: after.openedBy
  strayed : before.strayed <+: after.strayed
  claims : before.claims <+: after.claims
  marks : before.marks <+: after.marks
  published : before.published <+: after.published

namespace Core

variable {core core' core'' : Core}

/-! ## The evolution is a preorder -/

/-- A core follows itself. -/
theorem Follows.refl (core : Core) : core.Follows core where
  sessions i session h := by
    refine ⟨session, h, .refl session, fun hlive hended => ?_⟩
    rw [hlive] at hended
    exact absurd hended (by decide)
  resolved _ h _ := h
  known := List.prefix_rfl
  openedBy := List.prefix_rfl
  strayed := List.prefix_rfl
  claims := List.prefix_rfl
  marks := List.prefix_rfl
  published := List.prefix_rfl

/-- A resolved dispute stays resolved. -/
theorem Resolved.mono {id : DisputeId} (h : core.Resolved id) (hfollows : core.Follows core') :
    core'.Resolved id := by
  obtain ⟨row, hrow, hid, hresolved⟩ := h
  exact ⟨row, hfollows.resolved row hrow hresolved, hid, hresolved⟩

/-- How it was resolved stays so. -/
theorem ResolvedBy.mono {id : DisputeId} {byParties : Bool} (h : core.ResolvedBy id byParties)
    (hfollows : core.Follows core') : core'.ResolvedBy id byParties := by
  obtain ⟨row, hrow, hid, hresolved, hby⟩ := h
  exact ⟨row, hfollows.resolved row hrow hresolved, hid, hresolved, hby⟩

/-- Resolved in some way is resolved. -/
theorem ResolvedBy.resolved {id : DisputeId} {byParties : Bool}
    (h : core.ResolvedBy id byParties) : core.Resolved id := by
  obtain ⟨row, hrow, hid, hresolved, -⟩ := h
  exact ⟨row, hrow, hid, hresolved⟩

/-- A known dispute stays known. -/
theorem Knows.mono {id : DisputeId} (h : core.Knows id) (hfollows : core.Follows core') :
    core'.Knows id := hfollows.known.subset h

/-- What follows what follows: rows move forward and logs grow. -/
theorem Follows.trans (h : core.Follows core') (h' : core'.Follows core'') :
    core.Follows core'' where
  sessions i session hsession := by
    obtain ⟨mid, hmid, hbecomes, hended⟩ := h.sessions i session hsession
    obtain ⟨later, hlater, hbecomes', hended'⟩ := h'.sessions i mid hmid
    refine ⟨later, hlater, hbecomes.trans hbecomes', fun hlive hover hresolved => ?_⟩
    by_cases hmidLive : mid.isLive = true
    · refine hended' hmidLive hover ?_
      rw [hbecomes.disputeId]
      exact hresolved.mono h
    · exact hended hlive (by simpa using hmidLive) hresolved
  resolved row hrow hresolved := h'.resolved row (h.resolved row hrow hresolved) hresolved
  known := h.known.trans h'.known
  openedBy := h.openedBy.trans h'.openedBy
  strayed := h.strayed.trans h'.strayed
  claims := h.claims.trans h'.claims
  marks := h.marks.trans h'.marks
  published := h.published.trans h'.published

/-- Who opened a session stays on record. -/
theorem Follows.opener (h : core.Follows core') {id : SessionId} {thread : Nat}
    (hopened : core.openedBy[id]? = some thread) : core'.openedBy[id]? = some thread := by
  obtain ⟨hlt, rfl⟩ := List.getElem?_eq_some_iff.mp hopened
  exact List.prefix_iff_getElem?.mp h.openedBy id hlt

/-! ## Reading sessions -/

/-- Under the invariant a session is found at the place its id counts. -/
theorem Inv.find_eq (h : core.Inv) (id : SessionId) :
    (core.sessions.find? fun row => row.sessionId == id) = core.sessions[id]? := by
  cases hrow : core.sessions[id]? with
  | none =>
    rw [List.find?_eq_none]
    intro row hmem hid
    obtain ⟨i, hi⟩ := List.mem_iff_getElem?.mp hmem
    have hnumber := h.numbered i row hi
    have : i = id := by rw [← hnumber]; simpa using hid
    rw [this, hrow] at hi
    cases hi
  | some session =>
    have hid := h.numbered id session hrow
    have hsome : (core.sessions.find? fun row => row.sessionId == id).isSome := by
      rw [List.find?_isSome]
      exact ⟨session, List.mem_of_getElem? hrow, by simp [hid]⟩
    obtain ⟨found, hfound⟩ := Option.isSome_iff_exists.mp hsome
    have hfoundId : found.sessionId = id := by simpa using List.find?_some hfound
    obtain ⟨i, hi⟩ := List.mem_iff_getElem?.mp (List.mem_of_find?_eq_some hfound)
    have : i = id := (h.numbered i found hi).symm.trans hfoundId
    rw [this, hrow] at hi
    rw [hfound, hi]

/-- A session in the table is the one its id finds. -/
theorem Inv.getElem?_of_mem (h : core.Inv) {session : Session} (hmem : session ∈ core.sessions) :
    core.sessions[session.sessionId]? = some session := by
  obtain ⟨i, hi⟩ := List.mem_iff_getElem?.mp hmem
  rw [h.numbered i session hi]
  exact hi

/-! ## Updates of sessions -/

/-- Rows that moved forward one by one, read by their place. -/
theorem exists_becomes {sessions sessions' : List Session}
    (h : List.Forall₂ Session.Becomes sessions sessions') {i : Nat} {session : Session}
    (hi : sessions[i]? = some session) :
    ∃ later, sessions'[i]? = some later ∧ session.Becomes later := by
  obtain ⟨hlength, hget⟩ := List.forall₂_iff_get.mp h
  obtain ⟨hlt, rfl⟩ := List.getElem?_eq_some_iff.mp hi
  have hlt' : i < sessions'.length := hlength ▸ hlt
  exact ⟨sessions'[i], List.getElem?_eq_getElem hlt', hget i hlt hlt'⟩

/-- A row of the later table, and the row it was. -/
theorem exists_became {sessions sessions' : List Session}
    (h : List.Forall₂ Session.Becomes sessions sessions') {i : Nat} {later : Session}
    (hi : sessions'[i]? = some later) :
    ∃ session, sessions[i]? = some session ∧ session.Becomes later := by
  obtain ⟨hlength, hget⟩ := List.forall₂_iff_get.mp h
  obtain ⟨hlt, rfl⟩ := List.getElem?_eq_some_iff.mp hi
  have hlt' : i < sessions.length := hlength ▸ hlt
  exact ⟨sessions[i], List.getElem?_eq_getElem hlt', hget i hlt' hlt⟩

/-- A later row was an earlier one. -/
theorem mem_became {sessions sessions' : List Session}
    (h : List.Forall₂ Session.Becomes sessions sessions') {later : Session}
    (hlater : later ∈ sessions') : ∃ session ∈ sessions, session.Becomes later := by
  obtain ⟨i, hi⟩ := List.mem_iff_getElem?.mp hlater
  obtain ⟨session, hsession, hrow⟩ := exists_became h hi
  exact ⟨session, List.mem_of_getElem? hsession, hrow⟩

/-- The rows of an updated table are still numbered and at most one of each dispute is live. -/
theorem Inv.rows_of_becomes (h : core.Inv) {sessions : List Session}
    (hbecomes : List.Forall₂ Session.Becomes core.sessions sessions) :
    (∀ (i : Nat) session, sessions[i]? = some session → session.sessionId = i) ∧
      sessions.Pairwise fun a b => a.isLive = true → b.isLive = true → a.disputeId ≠ b.disputeId := by
  constructor
  · intro i session hi
    obtain ⟨before, hbefore, hrow⟩ := exists_became hbecomes hi
    rw [hrow.sessionId]
    exact h.numbered i before hbefore
  · rw [List.pairwise_iff_getElem]
    intro i j hi hj hij hlive hlive'
    obtain ⟨a, ha, hrow⟩ := exists_became hbecomes (List.getElem?_eq_getElem hi)
    obtain ⟨b, hb, hrow'⟩ := exists_became hbecomes (List.getElem?_eq_getElem hj)
    obtain ⟨hia, rfl⟩ := List.getElem?_eq_some_iff.mp ha
    obtain ⟨hjb, rfl⟩ := List.getElem?_eq_some_iff.mp hb
    rw [hrow.disputeId, hrow'.disputeId]
    exact List.pairwise_iff_getElem.mp h.oneLive i j hia hjb hij (hrow.isLive_of_isLive hlive)
      (hrow'.isLive_of_isLive hlive')

/-- A session that is opening was opening before, by the same thread. -/
theorem Inv.held_of_becomes (h : core.Inv) {sessions : List Session}
    (hbecomes : List.Forall₂ Session.Becomes core.sessions sessions) :
    ∀ (id : SessionId) session, sessions[id]? = some session → session.state = .opening →
      id ∉ core.strayed →
        ∃ thread, core.openedBy[id]? = some thread ∧
          (session.disputeId, thread) ∈ core.ownTakes := by
  intro id session hsession hopening hnot
  obtain ⟨before, hbefore, hrow⟩ := exists_became hbecomes hsession
  rw [hrow.disputeId]
  exact h.held id before hbefore (hrow.opening_of_opening hopening) hnot

/-- The invariant after rows moved forward while claims and marks were added. -/
theorem Inv.advance (h : core.Inv) {sessions : List Session}
    {claims : List (SessionId × Claimer)} {marks : List Event}
    (hbecomes : List.Forall₂ Session.Becomes core.sessions sessions)
    (hended : ∀ (i : Nat) session later, core.sessions[i]? = some session →
      sessions[i]? = some later → session.isLive = true → later.isLive = true)
    (documented : ∀ session ∈ sessions, session.Documented claims marks)
    (logged : ∀ claim ∈ claims, Logged sessions marks claim)
    (claimsKnown : ∀ claim ∈ claims, claim.1 < sessions.length)
    (marksKnown : ∀ event ∈ marks, ∀ id, event.sessionId = some id → id < sessions.length)
    (resolutions : ∀ event ∈ marks, ∀ resolution, Store.resolution event = some resolution →
      core.ResolvedBy resolution.disputeId resolution.byParties) :
    Inv { core with sessions := sessions, claims := claims, marks := marks } where
  numbered := (h.rows_of_becomes hbecomes).1
  oneLive := (h.rows_of_becomes hbecomes).2
  openers := h.openers.trans hbecomes.length_eq
  disputes := h.disputes
  takes := h.takes
  known session hsession := by
    obtain ⟨before, hbefore, hrow⟩ := mem_became hbecomes hsession
    rw [hrow.disputeId]
    exact h.known before hbefore
  takesKnown := h.takesKnown
  closed session hsession hclosed := by
    obtain ⟨i, hi⟩ := List.mem_iff_getElem?.mp hsession
    obtain ⟨before, hbefore, hrow⟩ := exists_became hbecomes hi
    -- A closed session was over before, so it is the row it was.
    have hover : before.state.isTerminal = true := by
      by_contra hlive
      have := hended i before session hbefore hi (by simpa [Session.isLive] using hlive)
      rw [Session.isLive, hclosed] at this
      exact absurd this (by decide)
    rw [hrow.disputeId]
    exact h.closed before (List.mem_of_getElem? hbefore) ((hrow.ended hover).1 ▸ hclosed)
  held := h.held_of_becomes hbecomes
  documented := documented
  logged := logged
  claimsKnown := claimsKnown
  marksKnown := marksKnown
  counted := h.counted
  ordered := h.ordered
  final := h.final
  newest := h.newest
  resolutions := resolutions
  closings := h.closings

/-- The evolution when rows moved forward and none of them ended. -/
theorem follows_of_becomes {sessions : List Session} {claims : List (SessionId × Claimer)}
    {marks : List Event} (hbecomes : List.Forall₂ Session.Becomes core.sessions sessions)
    (hlive : ∀ (i : Nat) session later, core.sessions[i]? = some session →
      sessions[i]? = some later → session.isLive = true → later.isLive = true)
    (hclaims : core.claims <+: claims) (hmarks : core.marks <+: marks) :
    core.Follows { core with sessions := sessions, claims := claims, marks := marks } where
  sessions i session hi := by
    obtain ⟨later, hlater, hrow⟩ := exists_becomes hbecomes hi
    refine ⟨later, hlater, hrow, fun hbefore hafter => ?_⟩
    rw [hlive i session later hi hlater hbefore] at hafter
    exact absurd hafter (by decide)
  resolved _ hrow _ := hrow
  known := List.prefix_rfl
  openedBy := List.prefix_rfl
  strayed := List.prefix_rfl
  claims := hclaims
  marks := hmarks
  published := List.prefix_rfl

/-- A claim stays logged while rows move forward and marks of other kinds are added. -/
theorem Logged.mono {sessions sessions' : List Session} {marks more : List Event}
    {claim : SessionId × Claimer} (h : Logged sessions marks claim)
    (hbecomes : List.Forall₂ Session.Becomes sessions sessions')
    (hhandoff : countMarks more claim.1 EventKind.isHandoff = 0)
    (hbrief : countMarks more claim.1 EventKind.isHandoffBrief = 0) :
    Logged sessions' (marks ++ more) claim := by
  have keep : ∀ {property : Event → Prop}, (∃ event ∈ marks, property event) →
      ∃ event ∈ marks ++ more, property event :=
    fun ⟨event, hevent, hproperty⟩ => ⟨event, List.mem_append_left more hevent, hproperty⟩
  have row : ∀ {reason : HandoffReason},
      (∃ session ∈ sessions, session.sessionId = claim.1 ∧ session.handoffReason = some reason) →
        ∃ session ∈ sessions', session.sessionId = claim.1 ∧
          session.handoffReason = some reason := by
    rintro reason ⟨session, hsession, hid, hreason⟩
    obtain ⟨i, hi⟩ := List.mem_iff_getElem?.mp hsession
    obtain ⟨later, hlater, hrow⟩ := exists_becomes hbecomes hi
    exact ⟨later, List.mem_of_getElem? hlater, hrow.sessionId.trans hid,
      hrow.reason reason hreason⟩
  unfold Logged at *
  split at h
  · obtain ⟨hcount, hevent, hcount', hevent', hrow⟩ := h
    rw [countMarks_append, countMarks_append, hhandoff, hbrief]
    exact ⟨hcount, keep hevent, hcount', keep hevent', row hrow⟩
  · obtain ⟨hevent, hevent', hrow⟩ := h
    exact ⟨keep hevent, keep hevent', row hrow⟩

/-- A dispute is resolved by the parties or not. -/
theorem Inv.resolvedBy_unique (h : core.Inv) {id : DisputeId}
    (hby : core.ResolvedBy id true) : ¬core.ResolvedBy id false := by
  rintro ⟨row, hrow, hid, -, hstatus⟩
  obtain ⟨other, hother, hotherId, -, hotherStatus⟩ := hby
  rw [List.inj_on_of_nodup_map h.disputes hrow hother (hid.trans hotherId.symm), hotherStatus]
    at hstatus
  cases hstatus

end Core

end Serbero
