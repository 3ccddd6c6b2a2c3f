import Serbero.Runtime.Core

/-! # Claiming a session

The writers of a session's state that claim it: the end of an opening, its failure, a hand-off and
the start of a guidance. Each keeps the invariant of the core, under what its caller knows. -/

namespace Serbero

namespace Session

variable {claims moreClaims : List (SessionId × Claimer)} {marks moreMarks : List Event}
  {session : Session}

/-- Claims and marks of other sessions, or of other kinds, leave a session's documents alone. -/
theorem Documented.add (h : session.Documented claims marks)
    (hclaims : countClaims moreClaims session.sessionId = 0)
    (hhandoff : countMarks moreMarks session.sessionId EventKind.isHandoff = 0)
    (hbrief : countMarks moreMarks session.sessionId EventKind.isHandoffBrief = 0)
    (hguided : countMarks moreMarks session.sessionId EventKind.isGuided = 0) :
    session.Documented (claims ++ moreClaims) (marks ++ moreMarks) where
  early := h.early
  handed := h.handed
  unclaimed hreason := by
    rw [countClaims_append, countMarks_append, countMarks_append, hclaims, hhandoff, hbrief]
    exact h.unclaimed hreason
  claimed hreason := by
    rw [countClaims_append, hclaims]
    exact h.claimed hreason
  notGuided hstage := by
    rw [countMarks_append, hguided]
    exact h.notGuided hstage
  guidedOnce := by
    rw [countMarks_append, hguided]
    exact h.guidedOnce
  guiding hstate := by
    rw [countMarks_append, hguided]
    exact h.guiding hstate

/-- What does not change a session's id, state and reason leaves its documents alone. -/
theorem Documented.congr {session' : Session} (h : session.Documented claims marks)
    (hid : session'.sessionId = session.sessionId) (hstate : session'.state = session.state)
    (hreason : session'.handoffReason = session.handoffReason) :
    session'.Documented claims marks := by
  constructor <;> simp only [hid, hstate, hreason]
  · exact h.early
  · exact h.handed
  · exact h.unclaimed
  · exact h.claimed
  · exact h.notGuided
  · exact h.guidedOnce
  · exact h.guiding

/-- A session that ends keeps its documents. -/
theorem Documented.finish {state : SessionState} {now : Int}
    (h : session.Documented claims marks) (hterminal : state.isTerminal = true) :
    { session with state := state, updatedAt := now }.Documented claims marks where
  early hstage := by
    have := (SessionState.isTerminal_iff_stage state).mp hterminal
    simp only at hstage
    omega
  handed hstate := by
    simp only at hstate
    rw [hstate] at hterminal
    exact absurd hterminal (by decide)
  unclaimed := h.unclaimed
  claimed := h.claimed
  notGuided hstage := by
    have := (SessionState.isTerminal_iff_stage state).mp hterminal
    simp only at hstage
    omega
  guidedOnce := h.guidedOnce
  guiding hstate := by
    simp only at hstate
    rw [hstate] at hterminal
    exact absurd hterminal (by decide)

end Session

/-- Marks of one session do not count for another. -/
theorem countMarks_of_ne {marks : List Event} {id other : SessionId} (hne : other ≠ id)
    (hmarks : ∀ event ∈ marks, event.sessionId = some id) (kind : EventKind → Bool) :
    countMarks marks other kind = 0 := by
  refine countMarks_eq_zero fun event hevent hid => ?_
  rw [hmarks event hevent, Option.some.injEq] at hid
  exact absurd hid.symm hne

namespace Core

variable {core : Core}

/-! ## Quiet updates -/

/-- An update that changes no row's id, dispute, state, reason or opening time keeps the invariant,
and nothing else sees it. -/
theorem Inv.quiet (h : core.Inv) (picked : Session → Bool) {change : Session → Session}
    (hchange : ∀ row, (change row).sessionId = row.sessionId ∧
      (change row).disputeId = row.disputeId ∧ (change row).openedAt = row.openedAt ∧
      (change row).state = row.state ∧ (change row).handoffReason = row.handoffReason) :
    let core' := { core with
      sessions := core.sessions.map fun row => if picked row then change row else row }
    core'.Inv ∧ core.Follows core' := by
  -- The columns the core knows are those that the change leaves.
  have same : ∀ row : Session, let row' := if picked row then change row else row
      row'.sessionId = row.sessionId ∧ row'.disputeId = row.disputeId ∧
        row'.openedAt = row.openedAt ∧ row'.state = row.state ∧
        row'.handoffReason = row.handoffReason := by
    intro row
    simp only []
    split
    · exact hchange row
    · exact ⟨rfl, rfl, rfl, rfl, rfl⟩
  have hbecomes : List.Forall₂ Session.Becomes core.sessions
      (core.sessions.map fun row => if picked row then change row else row) := by
    rw [List.forall₂_map_right_iff, List.forall₂_same]
    intro row _
    obtain ⟨hid, hdispute, hopened, hstate, hreason⟩ := same row
    exact ⟨hid, hdispute, hopened, by rw [hstate], fun _ => ⟨hstate, hreason⟩,
      fun reason hr => hreason.trans hr⟩
  have hlives : ∀ (i : Nat) session later, core.sessions[i]? = some session →
      (core.sessions.map fun row => if picked row then change row else row)[i]? = some later →
        session.isLive = true → later.isLive = true := by
    intro i session later hi hlater hlive
    rw [List.getElem?_map, hi, Option.map_some, Option.some.injEq] at hlater
    rw [← hlater, Session.isLive, (same session).2.2.2.1]
    exact hlive
  constructor
  · refine h.advance hbecomes hlives ?_ ?_ ?_ ?_ h.resolutions
    · intro session hsession
      obtain ⟨row, hrow, rfl⟩ := List.mem_map.mp hsession
      obtain ⟨hid, -, -, hstate, hreason⟩ := same row
      exact (h.documented row hrow).congr hid hstate hreason
    · intro claim hclaim
      rw [← List.append_nil core.marks]
      exact Logged.mono (h.logged claim hclaim) hbecomes rfl rfl
    · rw [List.length_map]
      exact h.claimsKnown
    · rw [List.length_map]
      exact h.marksKnown
  · exact follows_of_becomes hbecomes hlives List.prefix_rfl List.prefix_rfl

/-! ## Updates of one session -/

/-- The table after a change of one session, in the states a condition picks. -/
def updateOne (core : Core) (id : SessionId) (picked : SessionState → Bool)
    (change : Session → Session) : List Session :=
  core.sessions.map fun row =>
    if row.sessionId == id && picked row.state then change row else row

/-- A change of one session keeps the invariant when it moves that session forward and the claims
and marks added are the session's and document the change. -/
theorem Inv.updateOne (h : core.Inv) {id : SessionId} (picked : SessionState → Bool)
    (change : Session → Session) (moreClaims : List (SessionId × Claimer))
    (moreMarks : List Event) (hknown : id < core.sessions.length)
    (hbecomes : ∀ row ∈ core.sessions, row.sessionId = id → picked row.state = true →
      row.Becomes (change row) ∧ (row.isLive = true → (change row).isLive = true))
    (hclaims : ∀ claim ∈ moreClaims, claim.1 = id)
    (hmarks : ∀ event ∈ moreMarks, event.sessionId = some id)
    (hdocumented : ∀ row ∈ core.sessions, row.sessionId = id →
      (if picked row.state then change row else row).Documented
        (core.claims ++ moreClaims) (core.marks ++ moreMarks))
    (hlogged : ∀ claim ∈ core.claims, claim.1 = id →
      countMarks moreMarks id EventKind.isHandoff = 0 ∧
        countMarks moreMarks id EventKind.isHandoffBrief = 0)
    (hlogged' : ∀ claim ∈ moreClaims,
      Logged (core.updateOne id picked change) (core.marks ++ moreMarks) claim)
    (hresolutions : ∀ event ∈ moreMarks, Store.resolution event = none) :
    let core' := { core with
      sessions := core.updateOne id picked change
      claims := core.claims ++ moreClaims
      marks := core.marks ++ moreMarks }
    core'.Inv ∧ core.Follows core' := by
  -- Every row becomes what it is now, the picked one by the change.
  have hrows : List.Forall₂ Session.Becomes core.sessions
      (core.updateOne id picked change) := by
    rw [Core.updateOne, List.forall₂_map_right_iff, List.forall₂_same]
    intro row hrow
    split
    · next hpicked =>
      rw [Bool.and_eq_true, beq_iff_eq] at hpicked
      exact (hbecomes row hrow hpicked.1 hpicked.2).1
    · exact .refl row
  have hlives : ∀ (i : Nat) session later, core.sessions[i]? = some session →
      (core.updateOne id picked change)[i]? = some later →
        session.isLive = true → later.isLive = true := by
    intro i session later hi hlater hlive
    rw [Core.updateOne, List.getElem?_map, hi, Option.map_some, Option.some.injEq] at hlater
    rw [← hlater]
    split
    · next hpicked =>
      rw [Bool.and_eq_true, beq_iff_eq] at hpicked
      exact (hbecomes session (List.mem_of_getElem? hi) hpicked.1 hpicked.2).2 hlive
    · exact hlive
  constructor
  · refine h.advance hrows hlives ?_ ?_ ?_ ?_ ?_
    · intro session hsession
      obtain ⟨row, hrow, rfl⟩ := List.mem_map.mp hsession
      -- The row of the session itself is documented by hypothesis, the others keep their counts.
      by_cases hid : row.sessionId = id
      · have := hdocumented row hrow hid
        simpa [hid] using this
      · rw [if_neg (by simp [hid])]
        refine (h.documented row hrow).add ?_ (countMarks_of_ne hid hmarks _)
          (countMarks_of_ne hid hmarks _) (countMarks_of_ne hid hmarks _)
        rw [countClaims, List.countP_eq_zero]
        intro claim hclaim
        rw [hclaims claim hclaim]
        simpa using Ne.symm hid
    · intro claim hclaim
      rcases List.mem_append.mp hclaim with hold | hnew
      -- The claims of other sessions do not see the new marks.
      · by_cases hid : claim.1 = id
        · obtain ⟨hhandoff, hbrief⟩ := hlogged claim hold hid
          exact Logged.mono (h.logged claim hold) hrows (hid ▸ hhandoff) (hid ▸ hbrief)
        · exact Logged.mono (h.logged claim hold) hrows (countMarks_of_ne hid hmarks _)
            (countMarks_of_ne hid hmarks _)
      · exact hlogged' claim hnew
    · intro claim hclaim
      rw [Core.updateOne, List.length_map]
      rcases List.mem_append.mp hclaim with hold | hnew
      · exact h.claimsKnown claim hold
      · rw [hclaims claim hnew]
        exact hknown
    · intro event hevent found hfound
      rw [Core.updateOne, List.length_map]
      rcases List.mem_append.mp hevent with hold | hnew
      · exact h.marksKnown event hold found hfound
      · rw [hmarks event hnew, Option.some.injEq] at hfound
        exact hfound ▸ hknown
    · intro event hevent resolution hresolution
      rcases List.mem_append.mp hevent with hold | hnew
      · exact h.resolutions event hold resolution hresolution
      · rw [hresolutions event hnew] at hresolution
        cases hresolution
  · exact follows_of_becomes hrows hlives (List.prefix_append _ _) (List.prefix_append _ _)

end Core

end Serbero
