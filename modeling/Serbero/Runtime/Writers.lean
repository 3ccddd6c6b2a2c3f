import Serbero.Runtime.Claims

/-! # The calls that write the core

What each of them does to the core, and that it keeps the invariant under what its caller knows. -/

namespace Serbero

open Pool

namespace Core

/-- The thread's sessions that are still opening end or stay opening. -/
def KeepsOpenings (thread : Nat) (before after : Core) : Prop :=
  ∀ (id : SessionId) session later, before.openedBy[id]? = some thread →
    before.sessions[id]? = some session → session.state = .opening →
      after.sessions[id]? = some later → later.state = .opening ∨ later.state.isTerminal = true

/-- The thread still holds the takes it claimed. -/
def KeepsTakes (thread : Nat) (before after : Core) : Prop :=
  ∀ dispute, (dispute, thread) ∈ before.ownTakes → (dispute, thread) ∈ after.ownTakes

/-- What a step of something else leaves to a thread. -/
structure Leaves (thread : Nat) (before after : Core) : Prop where
  opened : ∀ (id : SessionId), after.openedBy[id]? = some thread →
    before.openedBy[id]? = some thread
  openings : KeepsOpenings thread before after
  takes : KeepsTakes thread before after

/-- A step keeps the invariant, the core evolves, and the threads it is not of keep what is
theirs. -/
structure Kept (own : Nat → Prop) (before after : Core) : Prop where
  inv : after.Inv
  follows : before.Follows after
  leaves : ∀ thread, ¬own thread → Leaves thread before after

/-- A step that changes no session and gives up no take leaves every thread what is its. -/
theorem leaves_of_sessions {before after : Core} (hopened : after.openedBy = before.openedBy)
    (hsessions : after.sessions = before.sessions) {thread : Nat}
    (htakes : KeepsTakes thread before after) : Leaves thread before after := by
  refine ⟨fun _ hafter => hopened ▸ hafter, fun id session later _ hsession hstate hlater => ?_,
    htakes⟩
  rw [hsessions, hsession, Option.some.injEq] at hlater
  exact Or.inl (hlater ▸ hstate)

/-- A step that changes neither sessions nor takes leaves every thread what is its. -/
theorem leaves_of_eq {before after : Core} (hopened : after.openedBy = before.openedBy)
    (hsessions : after.sessions = before.sessions) (htakes : after.ownTakes = before.ownTakes)
    {thread : Nat} : Leaves thread before after :=
  leaves_of_sessions hopened hsessions fun _ hmem => htakes ▸ hmem

/-- A step that leaves the core alone. -/
theorem Inv.kept {core : Core} (h : core.Inv) (own : Nat → Prop) : Kept own core core where
  inv := h
  follows := .refl core
  leaves _ _ := by apply leaves_of_eq <;> rfl

/-- The thread's session is opening, or it ended. -/
def OwnOpening (core : Core) (thread : Nat) (id : SessionId) : Prop :=
  core.openedBy[id]? = some thread ∧
    ∃ session, core.sessions[id]? = some session ∧
      (session.state = .opening ∨ session.state.isTerminal = true)

/-- The session is at least at this stage, and of this dispute. -/
def Known (core : Core) (id : SessionId) (stage : Nat) (dispute : DisputeId) : Prop :=
  ∃ session, core.sessions[id]? = some session ∧ stage ≤ session.state.stage ∧
    session.disputeId = dispute

variable {core : Core}

/-- A session once known is known as the core evolves. -/
theorem Known.mono {core' : Core} {id : SessionId} {stage : Nat} {dispute : DisputeId}
    (h : core.Known id stage dispute) (hfollows : core.Follows core') :
    core'.Known id stage dispute := by
  obtain ⟨session, hsession, hstage, hdispute⟩ := h
  obtain ⟨later, hlater, hbecomes, -⟩ := hfollows.sessions id session hsession
  exact ⟨later, hlater, hstage.trans hbecomes.stage, hbecomes.disputeId.trans hdispute⟩

/-- A known session's id counts a row. -/
theorem Known.lt {id : SessionId} {stage : Nat} {dispute : DisputeId}
    (h : core.Known id stage dispute) : id < core.sessions.length := by
  obtain ⟨session, hsession, -⟩ := h
  exact (List.getElem?_eq_some_iff.mp hsession).1

/-- The row with a known id. -/
theorem Inv.row_eq (h : core.Inv) {id : SessionId} {session row : Session}
    (hsession : core.sessions[id]? = some session) (hrow : row ∈ core.sessions)
    (hid : row.sessionId = id) : row = session := by
  have := h.getElem?_of_mem hrow
  rw [hid, hsession, Option.some.injEq] at this
  exact this.symm

/-- A change of one session leaves other threads what is theirs when it leaves that session's
opening alone, or the session is the step's own. -/
theorem leaves_updateOne (h : core.Inv) {id : SessionId} {picked : SessionState → Bool}
    {change : Session → Session} {claims : List (SessionId × Claimer)} {marks : List Event}
    {own thread : Nat}
    (hopening : ∀ row ∈ core.sessions, row.sessionId = id → picked row.state = true →
      row.state = .opening → core.openedBy[id]? = some own)
    (hthread : thread ≠ own) :
    Leaves thread core { core with
      sessions := core.updateOne id picked change, claims := claims, marks := marks } := by
  refine ⟨fun _ hafter => hafter, fun found session later hopened hsession hstate hlater => ?_,
    fun _ hmem => hmem⟩
  have hmem := List.mem_of_getElem? hsession
  have hnumber := h.numbered found session hsession
  simp only [updateOne, List.getElem?_map, hsession, Option.map_some, Option.some.injEq] at hlater
  split at hlater
  · next hpicked =>
    rw [Bool.and_eq_true, beq_iff_eq] at hpicked
    have hown := hopening session hmem hpicked.1 hpicked.2 hstate
    rw [← hpicked.1, hnumber, hopened, Option.some.injEq] at hown
    exact absurd hown hthread
  · rw [← hlater]
    exact Or.inl hstate

/-! ## The end of an opening -/

/-- A session set to active. -/
def toActive (now : Int) (row : Session) : Session :=
  { row with state := .active, updatedAt := now }

/-- Setting an own opening session to active. -/
theorem Inv.activate (h : core.Inv) {thread : Nat} {id : SessionId} (now : Int)
    (hown : core.OwnOpening thread id) :
    Kept (· = thread) core { core with
      sessions := core.updateOne id (fun state => !state.isTerminal) (toActive now) } := by
  obtain ⟨hopened, session, hsession, hstate⟩ := hown
  -- The one row that is picked is the opening session of this task.
  have hopening : ∀ row ∈ core.sessions, row.sessionId = id → (!row.state.isTerminal) = true →
      row = session ∧ row.state = .opening := by
    intro row hrow hid hlive
    have hrow := h.row_eq hsession hrow hid
    refine ⟨hrow, ?_⟩
    rw [hrow] at hlive ⊢
    rcases hstate with hopening | hterminal
    · exact hopening
    · rw [hterminal] at hlive
      exact absurd hlive (by decide)
  have hkept := h.updateOne (fun state => !state.isTerminal) (toActive now) [] []
    (List.getElem?_eq_some_iff.mp hsession).1 ?_ ?_ ?_ ?_ ?_ ?_
    (by simp)
  · simp only [List.append_nil] at hkept
    exact ⟨hkept.1, hkept.2, fun other hother =>
      leaves_updateOne h (fun _ _ _ _ _ => hopened) hother⟩
  · intro row hrow hid hlive
    obtain ⟨-, hstate⟩ := hopening row hrow hid hlive
    refine ⟨⟨rfl, rfl, rfl, ?_, fun hterminal => ?_, fun _ hreason => hreason⟩, fun _ => rfl⟩
    · rw [hstate]
      exact Nat.zero_le _
    · rw [hstate] at hterminal
      exact absurd hterminal (by decide)
  · simp
  · simp
  · intro row hrow hid
    rw [List.append_nil, List.append_nil]
    have documented := h.documented row hrow
    split
    · next hlive =>
      obtain ⟨-, hstate⟩ := hopening row hrow hid hlive
      -- An opening session has no marks yet, and activation adds none.
      have hzero := documented.notGuided (by rw [hstate]; decide)
      exact
        { early := fun _ => documented.early (by rw [hstate]; decide)
          handed := fun hactive => absurd hactive (by simp [toActive])
          unclaimed := documented.unclaimed
          claimed := documented.claimed
          notGuided := fun _ => hzero
          guidedOnce := documented.guidedOnce
          guiding := fun hguiding => absurd hguiding (by simp [toActive]) }
    · exact documented
  · exact fun _ _ _ => ⟨rfl, rfl⟩
  · simp

/-! ## Hand-offs -/

/-- A session handed off. -/
def toHandedOff (reason : HandoffReason) (now : Int) (row : Session) : Session :=
  { row with state := .handedOff, handoffReason := some reason, updatedAt := now }

/-- A session that Serbero mediates moves forward when it is handed off. -/
theorem becomes_toHandedOff {row : Session} (documented : row.Documented core.claims core.marks)
    (hmediating : row.state.isMediating = true) (reason : HandoffReason) (now : Int) :
    row.Becomes (toHandedOff reason now row) := by
  have hstage := (SessionState.isMediating_iff_stage row.state).mp hmediating
  refine ⟨rfl, rfl, rfl, ?_, fun hterminal => ?_, fun found hfound => ?_⟩
  · change row.state.stage ≤ 3
    omega
  · have := (SessionState.isTerminal_iff_stage row.state).mp hterminal
    omega
  · rw [documented.early hstage] at hfound
    cases hfound

/-- The row of a session just handed off. -/
theorem exists_handedOff {id : SessionId} {session : Session} (h : core.Inv)
    (hsession : core.sessions[id]? = some session)
    (hmediating : session.state.isMediating = true) (reason : HandoffReason) (now : Int) :
    ∃ row ∈ core.updateOne id SessionState.isMediating (toHandedOff reason now),
      row.sessionId = id ∧ row.handoffReason = some reason := by
  have hnumber := h.numbered id session hsession
  refine ⟨toHandedOff reason now session, ?_, hnumber, rfl⟩
  refine List.mem_map.mpr ⟨session, List.mem_of_getElem? hsession, ?_⟩
  rw [if_pos (by simp [hnumber, hmediating])]

/-- Claiming a mediated session for a hand-off, with the marks that document it. -/
theorem Inv.handOff (h : core.Inv) {id : SessionId} {session : Session}
    (hsession : core.sessions[id]? = some session)
    (hmediating : session.state.isMediating = true) (reason : HandoffReason) (now : Int)
    (claimer : Claimer) (more : List Event)
    (hmarks : ∀ event ∈ more, event.sessionId = some id)
    (hguided : countMarks more id EventKind.isGuided = 0)
    (hresolutions : ∀ event ∈ more, Store.resolution event = none)
    (hlogged : Logged (core.updateOne id SessionState.isMediating (toHandedOff reason now))
      (core.marks ++ more) (id, claimer))
    {own : Nat} (hown : session.state = .opening → core.openedBy[id]? = some own) :
    Kept (· = own) core { core with
      sessions := core.updateOne id SessionState.isMediating (toHandedOff reason now)
      claims := core.claims ++ [(id, claimer)]
      marks := core.marks ++ more } := by
  have hstage := (SessionState.isMediating_iff_stage session.state).mp hmediating
  have hnumber := h.numbered id session hsession
  have hdocumented := h.documented session (List.mem_of_getElem? hsession)
  have hreason := hdocumented.early hstage
  have hunclaimed := (hdocumented.unclaimed hreason).1
  rw [hnumber] at hunclaimed
  have hkept := h.updateOne SessionState.isMediating (toHandedOff reason now) [(id, claimer)] more
    (List.getElem?_eq_some_iff.mp hsession).1 ?_ ?_ hmarks ?_ ?_ ?_ hresolutions
  · refine ⟨hkept.1, hkept.2, fun other hother => leaves_updateOne h ?_ hother⟩
    intro row hrow hid _ hopening
    rw [h.row_eq hsession hrow hid] at hopening
    exact hown hopening
  · intro row hrow _ hpicked
    exact ⟨becomes_toHandedOff (h.documented row hrow) hpicked reason now, fun _ => rfl⟩
  · intro claim hclaim
    rw [List.mem_singleton.mp hclaim]
  · intro row hrow hid
    rw [h.row_eq hsession hrow hid, if_pos hmediating]
    exact
      { early := fun hearly => absurd hearly (by simp [toHandedOff, SessionState.stage])
        handed := fun _ => by simp [toHandedOff]
        unclaimed := fun hnone => absurd hnone (by simp [toHandedOff])
        claimed := fun _ => by
          change countClaims (core.claims ++ [(id, claimer)]) session.sessionId = 1
          rw [countClaims_append, hnumber, hunclaimed]
          simp [countClaims]
        notGuided := fun hearly => absurd hearly (by simp [toHandedOff, SessionState.stage])
        guidedOnce := by
          change countMarks (core.marks ++ more) session.sessionId EventKind.isGuided ≤ 1
          rw [countMarks_append, hnumber, hguided, ← hnumber]
          exact hdocumented.guidedOnce
        guiding := fun hguiding => absurd hguiding (by simp [toHandedOff]) }
  · -- An unclaimed session has no earlier claim.
    intro claim hclaim hid
    rw [countClaims, List.countP_eq_zero] at hunclaimed
    exact absurd (by simpa using hid) (hunclaimed claim hclaim)
  · intro claim hclaim
    rw [List.mem_singleton.mp hclaim]
    exact hlogged

/-- Marks that document no claim of a session, or name none, keep the invariant. -/
theorem Inv.addMarks (h : core.Inv) (more : List Event)
    (hknown : ∀ event ∈ more, ∀ id, event.sessionId = some id → id < core.sessions.length)
    (hkinds : ∀ event ∈ more, event.kind.isHandoff = false ∧ event.kind.isHandoffBrief = false ∧
      event.kind.isGuided = false ∧ Store.resolution event = none) (own : Nat → Prop) :
    Kept own core { core with marks := core.marks ++ more } := by
  -- No row changes; the marks document no claim and no resolution.
  have hrows : List.Forall₂ Session.Becomes core.sessions core.sessions :=
    List.forall₂_same.mpr fun row _ => .refl row
  have hhandoff : ∀ id, countMarks more id EventKind.isHandoff = 0 := fun id =>
    countMarks_eq_zero fun event hevent _ => (hkinds event hevent).1
  have hbrief : ∀ id, countMarks more id EventKind.isHandoffBrief = 0 := fun id =>
    countMarks_eq_zero fun event hevent _ => (hkinds event hevent).2.1
  have hguided : ∀ id, countMarks more id EventKind.isGuided = 0 := fun id =>
    countMarks_eq_zero fun event hevent _ => (hkinds event hevent).2.2.1
  refine ⟨?_, ?_, fun thread _ => by apply leaves_of_eq <;> rfl⟩
  · refine h.advance hrows ?_ ?_ ?_ h.claimsKnown ?_ ?_
    · intro i session later hi hlater hlive
      rw [hi, Option.some.injEq] at hlater
      exact hlater ▸ hlive
    · intro session hsession
      rw [← List.append_nil core.claims]
      exact (h.documented session hsession).add rfl (hhandoff _) (hbrief _) (hguided _)
    · exact fun claim hclaim => Logged.mono (h.logged claim hclaim) hrows (hhandoff _) (hbrief _)
    · intro event hevent id hid
      rcases List.mem_append.mp hevent with hold | hnew
      · exact h.marksKnown event hold id hid
      · exact hknown event hnew id hid
    · intro event hevent resolution hresolution
      rcases List.mem_append.mp hevent with hold | hnew
      · exact h.resolutions event hold resolution hresolution
      · rw [(hkinds event hnew).2.2.2] at hresolution
        cases hresolution
  · refine follows_of_becomes hrows ?_ List.prefix_rfl (List.prefix_append _ _)
    intro i session later hi hlater hlive
    rw [hi, Option.some.injEq] at hlater
    exact hlater ▸ hlive

/-- No row changes when the one session is in no picked state. -/
theorem Inv.updateOne_of_not (h : core.Inv) {id : SessionId} {session : Session}
    (hsession : core.sessions[id]? = some session) {picked : SessionState → Bool}
    (hpicked : picked session.state = false) (change : Session → Session) :
    core.updateOne id picked change = core.sessions := by
  rw [Core.updateOne]
  conv_rhs => rw [← List.map_id core.sessions]
  refine List.map_congr_left fun row hrow => ?_
  by_cases hid : row.sessionId = id
  · rw [h.row_eq hsession hrow hid, hpicked, Bool.and_false]
    rfl
  · rw [if_neg (by simp [hid])]
    rfl

/-! ## Guidance -/

/-- A session that entered guidance. -/
def toGuiding (now : Int) (row : Session) : Session :=
  { row with state := .guiding, updatedAt := now }

/-- Claiming an active session for guidance, with the mark of its start. -/
theorem Inv.startGuiding (h : core.Inv) {id : SessionId} {session : Session}
    (hsession : core.sessions[id]? = some session) (hactive : session.state = .active)
    (now : Int) (more : List Event) (hmarks : ∀ event ∈ more, event.sessionId = some id)
    (hguided : countMarks more id EventKind.isGuided = 1)
    (hhandoff : countMarks more id EventKind.isHandoff = 0)
    (hbrief : countMarks more id EventKind.isHandoffBrief = 0)
    (hresolutions : ∀ event ∈ more, Store.resolution event = none) (own : Nat) :
    Kept (· = own) core { core with
      sessions := core.updateOne id (· == .active) (toGuiding now)
      marks := core.marks ++ more } := by
  have hnumber := h.numbered id session hsession
  have hdocumented := h.documented session (List.mem_of_getElem? hsession)
  have hkept := h.updateOne (· == .active) (toGuiding now) [] more
    (List.getElem?_eq_some_iff.mp hsession).1 ?_ ?_ hmarks ?_ ?_ ?_ hresolutions
  · simp only [List.append_nil] at hkept
    refine ⟨hkept.1, hkept.2, fun other hother => leaves_updateOne h ?_ hother⟩
    -- The row is active, so no opening session is left by this.
    intro row hrow hid _ hopening
    rw [h.row_eq hsession hrow hid, hactive] at hopening
    cases hopening
  · intro row hrow hid _
    rw [h.row_eq hsession hrow hid]
    refine ⟨⟨rfl, rfl, rfl, ?_, fun hterminal => ?_, fun _ hreason => hreason⟩, fun _ => rfl⟩
    · rw [hactive]
      exact Nat.le_succ 1
    · rw [hactive] at hterminal
      exact absurd hterminal (by decide)
  · simp
  · intro row hrow hid
    rw [h.row_eq hsession hrow hid, if_pos (by simp [hactive]), List.append_nil]
    -- It was never guided before: the new mark is the first.
    have hzero := hdocumented.notGuided (by rw [hactive]; decide)
    rw [hnumber] at hzero
    have hone : countMarks (core.marks ++ more) session.sessionId EventKind.isGuided = 1 := by
      rw [countMarks_append, hnumber, hzero, hguided]
    exact
      { early := fun _ => hdocumented.early (by rw [hactive]; decide)
        handed := fun hstate => absurd hstate (by simp [toGuiding])
        unclaimed := fun hnone => by
          change countClaims core.claims session.sessionId = 0 ∧
            countMarks (core.marks ++ more) session.sessionId EventKind.isHandoff = 0 ∧
            countMarks (core.marks ++ more) session.sessionId EventKind.isHandoffBrief = 0
          rw [countMarks_append, countMarks_append, hnumber, hhandoff, hbrief, ← hnumber]
          exact hdocumented.unclaimed hnone
        claimed := hdocumented.claimed
        notGuided := fun hearly => absurd hearly (by simp [toGuiding, SessionState.stage])
        guidedOnce := hone.le
        guiding := fun _ => hone }
  · exact fun _ _ _ => ⟨hhandoff, hbrief⟩
  · simp

end Core

end Serbero
