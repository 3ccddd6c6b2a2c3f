import Serbero.Runtime.Writers

/-! # Dispute event revisions

What recording a revision does to the tables, case by case, and that it keeps the invariant of the
core: a session ends only by a revision that was applied, and none is applied once the dispute is
resolved. -/

namespace Serbero

/-! ## What a recorded revision is made of -/

/-- The kinds of events a recorded revision appends. -/
def EventKind.isRevision : EventKind → Bool
  | .detected _ _ | .statusChanged _ _ | .resolved _ _ _ => true
  | .sessionSuperseded _ | .sessionClosed _ => true
  | _ => false

/-- **What a recorded revision is made of**: a relation between stores that holds of these steps, and
of nothing done, holds of the whole. -/
theorem Store.record_steps {related : Store → Store → Prop} (hrefl : ∀ store, related store store)
    (htrans : ∀ {first second third}, related first second → related second third →
      related first third)
    (hinsert : ∀ store new, related store (store.insertDisputeIfNew new))
    (hstate : ∀ store id state now, related store (store.setState id state now))
    (hlifecycle : ∀ store id lifecycle now, related store (store.setLifecycle id lifecycle now))
    (happend : ∀ store (new : NewEvent), new.kind.isRevision = true →
      related store (store.append new))
    {store : Store} {dispute : DisputeEvent} {now : Int}
    (happly : related store
      (store.applyStatus dispute.disputeId dispute.status dispute.revisionAt now).2) :
    related store (store.record dispute now).2 := by
  have ended : ∀ (before : Store) (state : SessionState) (kind : DisputeStatus → EventKind),
      (kind dispute.status).isRevision = true →
        related before (before.endLiveSession dispute state kind now) := by
    intro before state kind hkind
    unfold Store.endLiveSession
    split
    · exact hrefl before
    · exact htrans (hstate before _ _ _) (happend _ _ hkind)
  have takenOver : ∀ before : Store, related before (before.takeOver dispute now) := by
    intro before
    unfold Store.takeOver
    split
    · exact ended before _ _ rfl
    · exact hrefl before
  have moved : ∀ (before : Store) (existing : Dispute),
      related before (before.transition dispute existing now).2 := by
    intro before existing
    unfold Store.transition
    split
    · simp only []
      split
      · exact htrans (takenOver before) (hlifecycle _ _ _ _)
      · exact htrans (takenOver before) (hlifecycle _ _ _ _)
      · exact takenOver before
      · exact takenOver before
    · split
      · exact htrans (hlifecycle before _ _ _) (htrans (ended _ _ _ rfl) (happend _ _ rfl))
      · exact hrefl before
  -- The branches of `record`: a new row, an applied revision, or one that changes nothing.
  unfold Store.record
  split
  · simp only []
    split
    · exact htrans (hinsert store _) (happend _ _ rfl)
    · exact htrans (hinsert store _) (htrans (hlifecycle _ _ _ _) (happend _ _ rfl))
  · split
    · next applied heq =>
      rw [heq] at happly
      exact htrans happly (htrans (happend _ _ rfl) (moved _ _))
    · next same _ heq =>
      rw [heq] at happly
      exact happly

namespace Store

variable (store : Store)

/-- Ending the live session of a dispute: there is none, or its row gets the final state. -/
theorem endLiveSession_cases (dispute : DisputeEvent) (state : SessionState)
    (kind : DisputeStatus → EventKind) (hkind : ∀ status, (kind status).isMark = false)
    (now : Int) :
    (store.liveForDispute dispute.disputeId = none ∧
        store.endLiveSession dispute state kind now = store) ∨
      ∃ session, store.liveForDispute dispute.disputeId = some session ∧
        (store.endLiveSession dispute state kind now).sessions =
          (store.setState session.sessionId state now).sessions ∧
        (store.endLiveSession dispute state kind now).disputes = store.disputes ∧
        (store.endLiveSession dispute state kind now).messages = store.messages ∧
        (store.endLiveSession dispute state kind now).evaluations = store.evaluations ∧
        (store.endLiveSession dispute state kind now).marks = store.marks := by
  unfold endLiveSession
  cases hlive : store.liveForDispute dispute.disputeId with
  | none => exact Or.inl ⟨rfl, rfl⟩
  | some session => exact Or.inr ⟨session, rfl, rfl, rfl, rfl, rfl, append_marks _ (hkind _)⟩

/-- The mark a final revision leaves: how it resolved its dispute. -/
structure Resolves (dispute : DisputeEvent) (event : Event) : Prop where
  sessionId : event.sessionId = none
  final : dispute.status.isFinal = true
  resolution : resolution event =
    some ⟨dispute.disputeId, dispute.status, dispute.status.resolvedByParties⟩

/-- A resolution documents no claim. -/
theorem kinds_of_resolution {event : Event} {found : Resolution}
    (h : resolution event = some found) : event.kind.isHandoff = false ∧
      event.kind.isHandoffBrief = false ∧ event.kind.isGuided = false := by
  unfold resolution at h
  split at h
  · next hkind => simp [hkind, EventKind.isHandoff, EventKind.isHandoffBrief, EventKind.isGuided]
  · cases h

/-- What a revision makes of its dispute's row. -/
structure Revised (dispute : DisputeEvent) (before after : Dispute) : Prop where
  disputeId : after.disputeId = before.disputeId
  other : before.disputeId ≠ dispute.disputeId → after = before
  statusAt : before.disputeId = dispute.disputeId → after.statusAt = dispute.revisionAt
  status : before.disputeId = dispute.disputeId → after.status = dispute.status
  resolved : before.disputeId = dispute.disputeId → dispute.status.isFinal = true →
    after.lifecycle = .resolved
  unresolved : before.disputeId = dispute.disputeId → before.lifecycle ≠ .resolved →
    dispute.status.isFinal = false → after.lifecycle ≠ .resolved

/-- Revised rows keep their ids. -/
theorem map_disputeId_of_revised {dispute : DisputeEvent} {before after : List Dispute}
    (h : List.Forall₂ (Revised dispute) before after) :
    after.map Dispute.disputeId = before.map Dispute.disputeId := by
  induction h with
  | nil => rfl
  | cons hrow _ ih => rw [List.map_cons, List.map_cons, hrow.disputeId, ih]

/-- What a revision makes of its dispute's live session. -/
inductive Ended (store : Store) (dispute : DisputeEvent) (now : Int) : List Session → Prop
  /-- There is none, or an in-progress revision is no newer than its opening, or the revision is
  neither an in-progress nor a final one. -/
  | kept (h : ∀ session, store.liveForDispute dispute.disputeId = some session →
      dispute.status.isFinal = false ∧
        (dispute.status = .inProgress → dispute.revisionAt ≤ session.openedAt)) :
      Ended store dispute now store.sessions
  /-- An in-progress revision newer than its opening takes it over. -/
  | superseded {session : Session}
      (hlive : store.liveForDispute dispute.disputeId = some session)
      (hstatus : dispute.status = .inProgress) (hnewer : session.openedAt < dispute.revisionAt) :
      Ended store dispute now (store.setState session.sessionId .superseded now).sessions
  /-- A final revision closes it. -/
  | closed {session : Session}
      (hlive : store.liveForDispute dispute.disputeId = some session)
      (hstatus : dispute.status.isFinal = true) :
      Ended store dispute now (store.setState session.sessionId .closed now).sessions

/-- What becomes of sessions depends on the sessions alone. -/
theorem Ended.of_sessions {store store' : Store} {dispute : DisputeEvent} {now : Int}
    {sessions : List Session} (h : Ended store' dispute now sessions)
    (hsame : store'.sessions = store.sessions) : Ended store dispute now sessions := by
  have hlive : store'.liveForDispute dispute.disputeId =
      store.liveForDispute dispute.disputeId := by
    rw [liveForDispute, liveForDispute, hsame]
  have hset : ∀ id state, (store'.setState id state now).sessions =
      (store.setState id state now).sessions := by
    intro id state
    rw [setState, setState, updateSessions, updateSessions, hsame]
  cases h with
  | kept h =>
    rw [hsame]
    exact .kept fun session hsession => h session (hlive.trans hsession)
  | superseded hsession hstatus hnewer =>
    rw [hset]
    exact .superseded (hlive.symm.trans hsession) hstatus hnewer
  | closed hsession hstatus =>
    rw [hset]
    exact .closed (hlive.symm.trans hsession) hstatus

/-- The disputes after their row's life cycle is set, if it is. -/
def withLifecycle (id : DisputeId) (lifecycle : Option Lifecycle) (now : Int) : List Dispute :=
  match lifecycle with
  | none => store.disputes
  | some lifecycle => (store.setLifecycle id lifecycle now).disputes

/-- A final revision resolves the dispute and closes its live session. -/
theorem transition_of_final {dispute : DisputeEvent} (h : dispute.status.isFinal = true)
    (existing : Dispute) (now : Int) :
    store.transition dispute existing now =
      (.resolved dispute.status,
        ((store.setLifecycle dispute.disputeId .resolved now).endLiveSession dispute .closed
          .sessionClosed now).append
            ⟨dispute.disputeId, none, .resolved dispute.status
              dispute.status.resolvedByParties dispute.revisionAt, now⟩) := by
  unfold transition
  cases hstatus : dispute.status <;> rw [hstatus] at h <;> first | rfl | exact absurd h (by decide)

/-- What the takeover test of an in-progress revision does to the tables. -/
theorem takeOver_spec {dispute : DisputeEvent} (h : dispute.status = .inProgress) (now : Int) :
    Ended store dispute now (store.takeOver dispute now).sessions ∧
      (store.takeOver dispute now).disputes = store.disputes ∧
      (store.takeOver dispute now).marks = store.marks ∧
      (store.takeOver dispute now).messages = store.messages ∧
      (store.takeOver dispute now).evaluations = store.evaluations := by
  unfold takeOver
  split
  · next hover =>
    rcases store.endLiveSession_cases dispute .superseded .sessionSuperseded (fun _ => rfl)
      now with ⟨hnone, -⟩ |
        ⟨session, hlive, hsessions, hdisputes, hmessages, hevaluations, hmarks⟩
    · rw [hnone] at hover
      cases hover
    · rw [hlive] at hover
      rw [hsessions]
      exact ⟨.superseded hlive h (by simpa using hover), hdisputes, hmarks, hmessages,
        hevaluations⟩
  · next hover =>
    refine ⟨.kept fun session hsession => ⟨by rw [h]; rfl, fun _ => ?_⟩, rfl, rfl, rfl, rfl⟩
    rw [hsession] at hover
    simpa using hover

/-- An in-progress revision takes over, and moves a dispute that waited for a solver to taken. -/
theorem transition_of_inProgress {dispute : DisputeEvent} (h : dispute.status = .inProgress)
    (existing : Dispute) (now : Int) :
    store.transition dispute existing now =
      match existing.lifecycle with
      | .new | .notified =>
        (.taken, (store.takeOver dispute now).setLifecycle dispute.disputeId .taken now)
      | .taken => (.takenAgain, store.takeOver dispute now)
      | .resolved => (.updated existing.status dispute.status, store.takeOver dispute now) := by
  cases hlifecycle : existing.lifecycle <;> simp only [transition, h, hlifecycle]

/-- What moving the life cycle does to the tables. -/
theorem transition_spec (dispute : DisputeEvent) (existing : Dispute) (now : Int) :
    Ended store dispute now (store.transition dispute existing now).2.sessions ∧
      (∃ lifecycle : Option Lifecycle,
        (dispute.status.isFinal = true → lifecycle = some .resolved) ∧
        (dispute.status.isFinal = false → lifecycle ≠ some .resolved) ∧
        (store.transition dispute existing now).2.disputes =
          store.withLifecycle dispute.disputeId lifecycle now) ∧
      (∃ more, (store.transition dispute existing now).2.marks = store.marks ++ more ∧
        ∀ event ∈ more, Resolves dispute event) ∧
      (store.transition dispute existing now).2.messages = store.messages ∧
      (store.transition dispute existing now).2.evaluations = store.evaluations ∧
      (store.transition dispute existing now).1 ≠ .unchanged := by
  by_cases hfinal : dispute.status.isFinal = true
  · rw [store.transition_of_final hfinal]
    have resolved : ∀ later : Option Lifecycle, later = some .resolved →
        (dispute.status.isFinal = true → later = some .resolved) ∧
          (dispute.status.isFinal = false → later ≠ some .resolved) :=
      fun later hlater => ⟨fun _ => hlater, fun h => by rw [hfinal] at h; cases h⟩
    -- The last event appended is the resolution.
    have resolves : ∀ later : Store, later.marks = store.marks →
        ∃ more, (later.append ⟨dispute.disputeId, none, .resolved dispute.status
            dispute.status.resolvedByParties dispute.revisionAt, now⟩).marks =
              store.marks ++ more ∧ ∀ event ∈ more, Resolves dispute event := by
      intro later hlater
      rw [append_marks_of_mark _ rfl, hlater]
      refine ⟨_, rfl, fun event hevent => ?_⟩
      rw [List.mem_singleton.mp hevent]
      exact ⟨rfl, hfinal, rfl⟩
    rcases (store.setLifecycle dispute.disputeId .resolved now).endLiveSession_cases dispute .closed
      .sessionClosed (fun _ => rfl) now with ⟨hnone, hsame⟩ | ⟨session, hlive, hsessions, hrest⟩
    · rw [hsame]
      refine ⟨?_, ⟨_, (resolved _ rfl).1, (resolved _ rfl).2, rfl⟩, resolves _ rfl, rfl, rfl,
        by simp⟩
      refine .kept fun session hsession => ?_
      rw [show store.liveForDispute dispute.disputeId = none from hnone] at hsession
      cases hsession
    · refine ⟨?_, ⟨_, (resolved _ rfl).1, (resolved _ rfl).2, hrest.1⟩,
        resolves _ hrest.2.2.2, hrest.2.1, hrest.2.2.1, by simp⟩
      rw [append_sessions, hsessions]
      exact .closed hlive hfinal
  · have hother : dispute.status.isFinal = false := by simpa using hfinal
    by_cases hprogress : dispute.status = .inProgress
    · obtain ⟨hended, hdisputes, hmarks, hmessages, hevaluations⟩ :=
        store.takeOver_spec hprogress now
      have hmoved : ∀ change, change ≠ Change.unchanged →
          ∀ lifecycle : Option Lifecycle, lifecycle ≠ some .resolved →
          ∀ later : Store, later.sessions = (store.takeOver dispute now).sessions →
            later.disputes = (store.takeOver dispute now).withLifecycle dispute.disputeId
              lifecycle now →
            later.marks = (store.takeOver dispute now).marks →
            later.messages = (store.takeOver dispute now).messages →
            later.evaluations = (store.takeOver dispute now).evaluations →
            Ended store dispute now later.sessions ∧
              (∃ lifecycle : Option Lifecycle,
                (dispute.status.isFinal = true → lifecycle = some .resolved) ∧
                (dispute.status.isFinal = false → lifecycle ≠ some .resolved) ∧
                later.disputes = store.withLifecycle dispute.disputeId lifecycle now) ∧
              (∃ more, later.marks = store.marks ++ more ∧
                ∀ event ∈ more, Resolves dispute event) ∧
              later.messages = store.messages ∧ later.evaluations = store.evaluations ∧
              change ≠ .unchanged := by
        intro change hchange lifecycle hlifecycle later hsessions hrows hmarks' hmessages'
          hevaluations'
        refine ⟨hsessions ▸ hended, ⟨lifecycle, fun h => absurd h hfinal, fun _ => hlifecycle, ?_⟩,
          ⟨[], by rw [hmarks', hmarks, List.append_nil], by simp⟩, hmessages'.trans hmessages,
          hevaluations'.trans hevaluations, hchange⟩
        rw [hrows]
        cases lifecycle with
        | none => exact hdisputes
        | some lifecycle => simp only [withLifecycle, setLifecycle, updateDisputes, hdisputes]
      rw [store.transition_of_inProgress hprogress]
      cases existing.lifecycle with
      | new => exact hmoved _ (by simp) (some .taken) (by simp) _ rfl rfl rfl rfl rfl
      | notified => exact hmoved _ (by simp) (some .taken) (by simp) _ rfl rfl rfl rfl rfl
      | taken => exact hmoved _ (by simp) none (by simp) _ rfl rfl rfl rfl rfl
      | resolved => exact hmoved _ (by simp) none (by simp) _ rfl rfl rfl rfl rfl
    · have hsame : store.transition dispute existing now =
          (.updated existing.status dispute.status, store) := by
        unfold transition
        cases hstatus : dispute.status <;> simp_all [DisputeStatus.isFinal]
      rw [hsame]
      exact ⟨.kept fun _ _ => ⟨hother, fun h => absurd h hprogress⟩,
        ⟨none, fun h => absurd h hfinal, fun _ => by simp, rfl⟩,
        ⟨[], (List.append_nil _).symm, by simp⟩, rfl, rfl, by simp⟩

/-- The rows of disputes after a newer revision. -/
theorem forall₂_revised {dispute : DisputeEvent} {lifecycle : Option Lifecycle}
    (hfinal : dispute.status.isFinal = true → lifecycle = some .resolved)
    (hother : dispute.status.isFinal = false → lifecycle ≠ some .resolved) (now : Int) :
    List.Forall₂ (Revised dispute) store.disputes
      ((store.updateDisputes (fun row => row.disputeId == dispute.disputeId) fun row =>
        { row with
          status := dispute.status
          statusAt := dispute.revisionAt
          updatedAt := now }).withLifecycle dispute.disputeId lifecycle now) := by
  have hcases : lifecycle = none ∨ ∃ later, lifecycle = some later := by
    cases lifecycle with
    | none => exact Or.inl rfl
    | some later => exact Or.inr ⟨later, rfl⟩
  rcases hcases with rfl | ⟨later, rfl⟩
  -- The life cycle stays: only status and times are written.
  · rw [withLifecycle, updateDisputes, List.forall₂_map_right_iff, List.forall₂_same]
    intro row _
    by_cases hid : row.disputeId = dispute.disputeId
    · rw [if_pos (by simpa using hid)]
      exact ⟨rfl, fun hne => absurd hid hne, fun _ => rfl, fun _ => rfl,
        fun _ hstatus => absurd (hfinal hstatus) (by simp), fun _ hbefore _ => hbefore⟩
    · rw [if_neg (by simpa using hid)]
      exact ⟨rfl, fun _ => rfl, fun h => absurd h hid, fun h => absurd h hid,
        fun h => absurd h hid, fun h => absurd h hid⟩
  -- The life cycle moves too, to `resolved` exactly for a final status.
  · rw [withLifecycle, setLifecycle, updateDisputes, updateDisputes, List.forall₂_map_right_iff,
      List.forall₂_map_right_iff, List.forall₂_same]
    intro row _
    by_cases hid : row.disputeId = dispute.disputeId
    · have hpicked : (row.disputeId == dispute.disputeId) = true := by simpa using hid
      simp only [hpicked, if_true]
      refine ⟨rfl, fun hne => absurd hid hne, fun _ => rfl, fun _ => rfl, fun _ hstatus => ?_,
        fun _ _ hstatus => ?_⟩
      · simpa using hfinal hstatus
      · simpa using hother hstatus
    · have hpicked : (row.disputeId == dispute.disputeId) = false := by simpa using hid
      simp only [hpicked, Bool.false_eq_true, if_false]
      exact ⟨rfl, fun _ => rfl, fun h => absurd h hid, fun h => absurd h hid,
        fun h => absurd h hid, fun h => absurd h hid⟩

/-- **What recording a revision does.** A dispute seen for the first time gets a row; a revision no
newer than the stored one changes nothing; a newer one revises the row and may end the live
session. -/
theorem record_cases (dispute : DisputeEvent) (now : Int) :
    (store.record dispute now).2.messages = store.messages ∧
      (store.record dispute now).2.evaluations = store.evaluations ∧
      ((store.dispute dispute.disputeId = none ∧
          (store.record dispute now).2.sessions = store.sessions ∧
          (store.record dispute now).2.marks = store.marks ∧
          (store.record dispute now).1 ≠ .unchanged ∧
          (∀ status, (store.record dispute now).1 ≠ .resolved status) ∧
          ∃ row : Dispute, row.disputeId = dispute.disputeId ∧
            row.statusAt = dispute.revisionAt ∧
            (row.lifecycle = .resolved ↔ dispute.status.isFinal = true) ∧
            (store.record dispute now).2.disputes = store.disputes ++ [row]) ∨
        (∃ existing, store.dispute dispute.disputeId = some existing ∧
          dispute.revisionAt ≤ existing.statusAt ∧
          store.record dispute now = (.unchanged, store)) ∨
        ∃ existing, store.dispute dispute.disputeId = some existing ∧
          existing.statusAt < dispute.revisionAt ∧
          (store.record dispute now).1 ≠ .unchanged ∧
          (∃ more, (store.record dispute now).2.marks = store.marks ++ more ∧
            ∀ event ∈ more, Resolves dispute event) ∧
          List.Forall₂ (Revised dispute) store.disputes (store.record dispute now).2.disputes ∧
          Ended store dispute now (store.record dispute now).2.sessions) := by
  cases hdispute : store.dispute dispute.disputeId with
  | none =>
    -- No row yet: one is added, and the rows that are there are not touched.
    have hinsert : store.insertDisputeIfNew
        ⟨dispute.disputeId, dispute.initiator, dispute.status, dispute.revisionAt, now⟩ =
        { store with
          disputes := store.disputes ++
            [{ disputeId := dispute.disputeId
               initiator := dispute.initiator
               status := dispute.status
               statusAt := dispute.revisionAt
               lifecycle := .new
               firstSeenAt := now
               lastNotifiedAt := none
               updatedAt := now }] } := by
      unfold insertDisputeIfNew
      rw [hdispute]
      rfl
    have hothers : ∀ row ∈ store.disputes, ¬row.disputeId = dispute.disputeId := by
      intro row hrow
      have := List.find?_eq_none.mp hdispute row hrow
      simpa using this
    have hstay : ∀ change : Dispute → Dispute, store.disputes.map (fun row =>
        if row.disputeId == dispute.disputeId then change row else row) = store.disputes := by
      intro change
      conv_rhs => rw [← List.map_id store.disputes]
      refine List.map_congr_left fun row hrow => ?_
      rw [if_neg (by simpa using hothers row hrow)]
      rfl
    unfold record
    rw [hdispute]
    simp only [hinsert]
    by_cases hinitiated : dispute.status = .initiated
    · rw [if_pos hinitiated]
      refine ⟨rfl, rfl, Or.inl ⟨trivial, rfl, append_marks _ rfl, by simp, by simp, _, rfl, rfl, ?_, rfl⟩⟩
      simp [hinitiated, DisputeStatus.isFinal]
    · rw [if_neg hinitiated]
      refine ⟨rfl, rfl, Or.inl ⟨trivial, rfl, append_marks _ rfl, by simp, by simp, ?_⟩⟩
      refine ⟨{ disputeId := dispute.disputeId
                initiator := dispute.initiator
                status := dispute.status
                statusAt := dispute.revisionAt
                lifecycle := if dispute.status.isFinal then .resolved else .taken
                firstSeenAt := now
                lastNotifiedAt := none
                updatedAt := now }, rfl, rfl, ?_, ?_⟩
      · by_cases hfinal : dispute.status.isFinal = true <;> simp [hfinal]
      · simp only [append_disputes, setLifecycle, updateDisputes, List.map_append, hstay,
          List.map_cons, List.map_nil, beq_self_eq_true, if_true]
  | some existing =>
    unfold record
    rw [hdispute]
    simp only [applyStatus, hdispute]
    by_cases hnewer : existing.statusAt < dispute.revisionAt
    -- A newer revision rewrites the row first; the life cycle moves from what it was.
    · rw [if_pos hnewer]
      simp only []
      obtain ⟨hended, ⟨lifecycle, hfinal, hother, hdisputes⟩, ⟨more, hmarks, hmore⟩, hmessages,
        hevaluations, hchange⟩ :=
        (((store.updateDisputes (fun row => row.disputeId == dispute.disputeId) fun row =>
          { row with
            status := dispute.status
            statusAt := dispute.revisionAt
            updatedAt := now }).append ⟨dispute.disputeId, none,
              .statusChanged existing.status dispute.status, now⟩)).transition_spec dispute
                existing now
      refine ⟨hmessages, hevaluations, Or.inr (Or.inr
        ⟨existing, rfl, hnewer, hchange, ⟨more, ?_, hmore⟩, ?_, ?_⟩)⟩
      · rw [hmarks, append_marks _ rfl]
        rfl
      · rw [hdisputes]
        have hrevised := store.forall₂_revised hfinal hother now
        cases lifecycle <;> exact hrevised
      · exact hended.of_sessions rfl
    -- An older revision, or the same one again, writes nothing.
    · rw [if_neg hnewer]
      exact ⟨rfl, rfl, Or.inr (Or.inl ⟨existing, rfl, by omega, rfl⟩)⟩

end Store

namespace Core

variable {core : Core}

/-- The newest revision of a dispute is the final one, if there is one. -/
theorem Inv.le_of_final (h : core.Inv) {event final : DisputeEvent}
    (hevent : event ∈ core.published) (hfinal : final ∈ core.published)
    (hstatus : final.status.isFinal = true) (hdispute : event.disputeId = final.disputeId) :
    event.revisionAt ≤ final.revisionAt := by
  obtain ⟨i, hi, rfl⟩ := List.mem_iff_getElem.mp hevent
  obtain ⟨j, hj, rfl⟩ := List.mem_iff_getElem.mp hfinal
  have hordered := List.pairwise_iff_getElem.mp h.ordered
  rcases Nat.lt_trichotomy i j with hlt | heq | hgt
  · exact (hordered i j hi hj hlt hdispute).2
  · subst heq
    exact le_rfl
  · have := (hordered j i hj hi hgt hdispute.symm).1
    rw [hstatus] at this
    cases this

/-- No revision is newer than what a resolved dispute stores. -/
theorem Inv.not_resolved_of_newer (h : core.Inv) {event : DisputeEvent}
    (hevent : event ∈ core.published) {row : Dispute} (hrow : row ∈ core.disputes)
    (hid : row.disputeId = event.disputeId) (hnewer : row.statusAt < event.revisionAt) :
    ¬core.Resolved event.disputeId := by
  rintro ⟨resolved, hmem, hresolvedId, hresolved⟩
  have hsame : row = resolved :=
    List.inj_on_of_nodup_map h.disputes hrow hmem (hid.trans hresolvedId.symm)
  subst hsame
  have := h.newest row hrow hresolved event hevent hid.symm
  omega

/-- The invariant after a revision changed rows of sessions and disputes. -/
theorem Inv.revise (h : core.Inv) {sessions : List Session} {disputes : List Dispute}
    {more : List Event}
    (hbecomes : List.Forall₂ Session.Becomes core.sessions sessions)
    (hdocumented : ∀ session ∈ sessions, session.Documented core.claims core.marks)
    (hnodup : (disputes.map Dispute.disputeId).Nodup)
    (hfinal : ∀ row ∈ disputes, row.lifecycle = .resolved →
      (∃ event ∈ core.published, event.disputeId = row.disputeId ∧
        event.status.isFinal = true) ∧
      ∀ event ∈ core.published, event.disputeId = row.disputeId → event.revisionAt ≤ row.statusAt)
    (hresolved : ∀ row ∈ core.disputes, row.lifecycle = .resolved → row ∈ disputes)
    (hknown : core.disputes.map Dispute.disputeId <+: disputes.map Dispute.disputeId)
    (hclosed : ∀ session ∈ sessions, session.state = .closed →
      session ∈ core.sessions ∨ Resolved { core with disputes := disputes } session.disputeId)
    (hsessionId : ∀ event ∈ more, event.sessionId = none)
    (hmore : ∀ event ∈ more, ∃ resolution, Store.resolution event = some resolution ∧
      ResolvedBy { core with disputes := disputes } resolution.disputeId resolution.byParties) :
    Inv { core with
      sessions := sessions, disputes := disputes, marks := core.marks ++ more } where
  numbered := (h.rows_of_becomes hbecomes).1
  oneLive := (h.rows_of_becomes hbecomes).2
  openers := h.openers.trans hbecomes.length_eq
  disputes := hnodup
  takes := h.takes
  known session hsession := by
    obtain ⟨before, hbefore, hrow⟩ := mem_became hbecomes hsession
    rw [hrow.disputeId]
    exact hknown.subset (h.known before hbefore)
  takesKnown take htake := hknown.subset (h.takesKnown take htake)
  closed session hsession hstate := by
    rcases hclosed session hsession hstate with hold | hnow
    · obtain ⟨row, hrow, hid, hresolvedRow⟩ := h.closed session hold hstate
      exact ⟨row, hresolved row hrow hresolvedRow, hid, hresolvedRow⟩
    · exact hnow
  held := h.held_of_becomes hbecomes
  documented session hsession := by
    -- The marks of a resolution belong to no session, so they count for no claim.
    have hkinds : ∀ event ∈ more, event.kind.isHandoff = false ∧
        event.kind.isHandoffBrief = false ∧ event.kind.isGuided = false := fun event hevent => by
      obtain ⟨resolution, hresolution, -⟩ := hmore event hevent
      exact Store.kinds_of_resolution hresolution
    rw [← List.append_nil core.claims]
    exact (hdocumented session hsession).add rfl
      (countMarks_eq_zero fun event hevent _ => (hkinds event hevent).1)
      (countMarks_eq_zero fun event hevent _ => (hkinds event hevent).2.1)
      (countMarks_eq_zero fun event hevent _ => (hkinds event hevent).2.2)
  logged claim hclaim := by
    have hnone : ∀ kind, countMarks more claim.1 kind = 0 := fun kind =>
      countMarks_eq_zero fun event hevent hmark => by rw [hsessionId event hevent] at hmark; cases hmark
    exact Logged.mono (h.logged claim hclaim) hbecomes (hnone _) (hnone _)
  claimsKnown := hbecomes.length_eq ▸ h.claimsKnown
  marksKnown event hevent id hmark := by
    rcases List.mem_append.mp hevent with hold | hnew
    · rw [← hbecomes.length_eq]
      exact h.marksKnown event hold id hmark
    · rw [hsessionId event hnew] at hmark
      cases hmark
  counted := h.counted
  ordered := h.ordered
  final row hrow hlifecycle := (hfinal row hrow hlifecycle).1
  newest row hrow hlifecycle := (hfinal row hrow hlifecycle).2
  resolutions event hevent resolution hresolution := by
    rcases List.mem_append.mp hevent with hold | hnew
    -- A row that was resolved stays the row it was.
    · obtain ⟨row, hrow, hid, hresolvedRow, hby⟩ := h.resolutions event hold resolution hresolution
      exact ⟨row, hresolved row hrow hresolvedRow, hid, hresolvedRow, hby⟩
    · obtain ⟨found, hfound, hresolvedBy⟩ := hmore event hnew
      rw [hfound, Option.some.injEq] at hresolution
      exact hresolution ▸ hresolvedBy
  closings task htask id status byParties heq := by
    obtain ⟨row, hrow, hid, hresolvedRow, hby⟩ := h.closings task htask id status byParties heq
    exact ⟨row, hresolved row hrow hresolvedRow, hid, hresolvedRow, hby⟩

/-- The row a live session is found as. -/
theorem Inv.of_liveForDispute (h : core.Inv) {store : Store} (hstore : store.sessions = core.sessions)
    {id : DisputeId} {session : Session} (hlive : store.liveForDispute id = some session) :
    core.sessions[session.sessionId]? = some session ∧ session.disputeId = id ∧
      session.isLive = true := by
  rw [Store.liveForDispute, hstore] at hlive
  have hpicked := List.find?_some hlive
  rw [Bool.and_eq_true, beq_iff_eq] at hpicked
  exact ⟨h.getElem?_of_mem (List.mem_of_find?_eq_some hlive), hpicked.1, hpicked.2⟩

/-- What a revision does to the rows of sessions: they move forward, a session that ends is one of
the dispute, and ending keeps the documents. -/
theorem Inv.ended (h : core.Inv) {store : Store} (hstore : store.sessions = core.sessions)
    {dispute : DisputeEvent} {now : Int} {sessions : List Session}
    (hended : Store.Ended store dispute now sessions) :
    List.Forall₂ Session.Becomes core.sessions sessions ∧
      (∀ session ∈ sessions, session.Documented core.claims core.marks) ∧
      ∀ (i : Nat) session later, core.sessions[i]? = some session → sessions[i]? = some later →
        later = session ∨ (session.disputeId = dispute.disputeId ∧
          later.state.isTerminal = true ∧
          (later.state = .closed → dispute.status.isFinal = true)) := by
  -- Both ways of ending a session write a terminal state on the one live row.
  have hset : ∀ {session : Session} {state : SessionState},
      store.liveForDispute dispute.disputeId = some session → state.isTerminal = true →
      (state = .closed → dispute.status.isFinal = true) →
      List.Forall₂ Session.Becomes core.sessions
          (store.setState session.sessionId state now).sessions ∧
        (∀ row ∈ (store.setState session.sessionId state now).sessions,
          row.Documented core.claims core.marks) ∧
        ∀ (i : Nat) row later, core.sessions[i]? = some row →
          (store.setState session.sessionId state now).sessions[i]? = some later →
          later = row ∨ (row.disputeId = dispute.disputeId ∧ later.state.isTerminal = true ∧
            (later.state = .closed → dispute.status.isFinal = true)) := by
    intro session state hlive hterminal hclosed
    obtain ⟨hsession, hdispute, hsessionLive⟩ := h.of_liveForDispute hstore hlive
    refine ⟨?_, ?_, ?_⟩
    · rw [← hstore]
      refine Store.updateSessions_becomes _ fun row _ hpicked => ?_
      rw [Bool.and_eq_true] at hpicked
      have hlive : row.state.isTerminal = false := by simpa [Session.isLive] using hpicked.2
      refine ⟨rfl, rfl, rfl, ?_, fun hover => ?_, fun _ hreason => hreason⟩
      · change row.state.stage ≤ state.stage
        rw [(SessionState.isTerminal_iff_stage state).mp hterminal]
        cases row.state <;> decide
      · rw [hlive] at hover
        cases hover
    · intro row hrow
      rcases Store.mem_updateSessions _ hrow with ⟨before, hbefore, -, rfl⟩ | ⟨hsame, -⟩
      · exact (h.documented before (hstore ▸ hbefore)).finish hterminal
      · exact h.documented row (hstore ▸ hsame)
    · intro i row later hrow hlater
      rw [Store.setState, Store.updateSessions, List.getElem?_map, hstore, hrow, Option.map_some,
        Option.some.injEq] at hlater
      split at hlater
      · next hpicked =>
        rw [Bool.and_eq_true, beq_iff_eq] at hpicked
        refine Or.inr ⟨?_, hlater ▸ hterminal, hlater ▸ hclosed⟩
        rw [h.row_eq hsession (List.mem_of_getElem? hrow) hpicked.1]
        exact hdispute
      · exact Or.inl hlater.symm
  cases hended with
  | kept _ =>
    rw [hstore]
    refine ⟨List.forall₂_same.mpr fun row _ => .refl row, h.documented, ?_⟩
    intro i row later hrow hlater
    rw [hrow, Option.some.injEq] at hlater
    exact Or.inl hlater.symm
  | superseded hlive _ _ => exact hset hlive rfl (by simp)
  | closed hlive hfinal => exact hset hlive rfl fun _ => hfinal

/-- **Recording a published revision** keeps the invariant of the core and every thread's own. -/
theorem Inv.record {world : World} (h : world.core.Inv) {dispute : DisputeEvent}
    (hpublished : dispute ∈ world.published) (now : Int) (own : Nat → Prop) :
    Kept own world.core { world.core with
      sessions := (world.store.record dispute now).2.sessions
      disputes := (world.store.record dispute now).2.disputes
      marks := (world.store.record dispute now).2.marks } := by
  obtain ⟨-, -, hnone | hsame | hnewer⟩ := world.store.record_cases dispute now
  · obtain ⟨hnone, hsessions, hmarks, -, -, row, hrowId, hrowAt, hrowResolved, hdisputes⟩ := hnone
    have hothers : ∀ other ∈ world.store.disputes, other.disputeId ≠ dispute.disputeId := by
      intro other hother
      simpa using List.find?_eq_none.mp hnone other hother
    have hmarks : (world.store.record dispute now).2.marks = world.core.marks ++ [] := by
      rw [hmarks, List.append_nil]
      rfl
    have hids : world.core.disputes.map Dispute.disputeId <+:
        (world.core.disputes ++ [row]).map Dispute.disputeId := by
      rw [List.map_append]
      exact List.prefix_append _ _
    have hstay : ∀ found ∈ world.core.disputes, found.lifecycle = .resolved →
        found ∈ world.core.disputes ++ [row] :=
      fun found hfound _ => List.mem_append_left _ hfound
    rw [hsessions, hdisputes, hmarks]
    refine ⟨h.revise ?_ h.documented ?_ ?_ hstay hids (fun _ hsession _ => Or.inl hsession)
      (by simp) (by simp), ?_, fun thread _ => ?_⟩
    · exact List.forall₂_same.mpr fun row _ => .refl row
    · rw [List.map_append, List.nodup_append]
      refine ⟨h.disputes, by simp, ?_⟩
      intro id hid found hfound heq
      obtain ⟨other, hother, rfl⟩ := List.mem_map.mp hid
      rw [List.map_singleton, List.mem_singleton] at hfound
      exact hothers other hother (heq.trans (hfound.trans hrowId))
    · intro found hfound hlifecycle
      rcases List.mem_append.mp hfound with hold | hnew
      · exact ⟨h.final found hold hlifecycle, h.newest found hold hlifecycle⟩
      · rw [List.mem_singleton.mp hnew] at hlifecycle ⊢
        have hfinal := hrowResolved.mp hlifecycle
        refine ⟨⟨dispute, hpublished, hrowId.symm, hfinal⟩, fun event hevent hid => ?_⟩
        rw [hrowAt]
        exact h.le_of_final hevent hpublished hfinal (hid.trans hrowId)
    · exact
        { sessions := (Follows.refl world.core).sessions
          resolved := hstay
          known := hids
          openedBy := List.prefix_rfl
          strayed := List.prefix_rfl
          claims := List.prefix_rfl
          marks := List.prefix_append _ _
          published := List.prefix_rfl }
    · apply leaves_of_eq <;> rfl
  · obtain ⟨existing, -, -, heq⟩ := hsame
    rw [heq]
    exact h.kept own
  · obtain ⟨existing, hexisting, hnewer, -, ⟨more, hmarks, hmore⟩, hrevised, hended⟩ := hnewer
    have hmem := List.mem_of_find?_eq_some hexisting
    have hid : existing.disputeId = dispute.disputeId := by
      simpa using List.find?_some hexisting
    have hunresolved := h.not_resolved_of_newer hpublished hmem hid hnewer
    obtain ⟨hbecomes, hdocumented, hwho⟩ := h.ended rfl hended
    have hids : (world.store.record dispute now).2.disputes.map Dispute.disputeId =
        world.core.disputes.map Dispute.disputeId := Store.map_disputeId_of_revised hrevised
    obtain ⟨hlength, hget⟩ := List.forall₂_iff_get.mp hrevised
    have before : ∀ row ∈ (world.store.record dispute now).2.disputes,
        ∃ found ∈ world.store.disputes, Store.Revised dispute found row := by
      intro row hrow
      obtain ⟨i, hi, rfl⟩ := List.mem_iff_getElem.mp hrow
      exact ⟨_, List.getElem_mem (hlength ▸ hi), hget i (hlength ▸ hi) hi⟩
    have after : ∀ found ∈ world.store.disputes,
        ∃ row ∈ (world.store.record dispute now).2.disputes, Store.Revised dispute found row := by
      intro found hfound
      obtain ⟨i, hi, rfl⟩ := List.mem_iff_getElem.mp hfound
      exact ⟨_, List.getElem_mem (hlength ▸ hi), hget i hi (hlength ▸ hi)⟩
    have hstay : ∀ row ∈ world.core.disputes, row.lifecycle = .resolved →
        row ∈ (world.store.record dispute now).2.disputes := by
      intro found hfound hlifecycle
      obtain ⟨row, hrow, hrevise⟩ := after found hfound
      have hother : found.disputeId ≠ dispute.disputeId :=
        fun heq => hunresolved ⟨found, hfound, heq, hlifecycle⟩
      exact hrevise.other hother ▸ hrow
    -- The revised row tells how the dispute was resolved, when the revision is final.
    have hresolvedBy : dispute.status.isFinal = true →
        ResolvedBy { world.core with disputes := (world.store.record dispute now).2.disputes }
          dispute.disputeId dispute.status.resolvedByParties := by
      intro hfinal
      obtain ⟨row, hrow, hrevise⟩ := after existing hmem
      exact ⟨row, hrow, hrevise.disputeId.trans hid, hrevise.resolved hid hfinal,
        by rw [hrevise.status hid]⟩
    rw [hmarks]
    refine ⟨h.revise hbecomes hdocumented (hids ▸ h.disputes) ?_ hstay (hids ▸ List.prefix_rfl) ?_
      (fun event hevent => (hmore event hevent).sessionId)
      (fun event hevent => ⟨_, (hmore event hevent).resolution,
        hresolvedBy (hmore event hevent).final⟩), ?_, fun thread _ => ?_⟩
    · intro row hrow hlifecycle
      obtain ⟨found, hfound, hrevise⟩ := before row hrow
      by_cases hother : found.disputeId = dispute.disputeId
      · -- The revised row is resolved by this very revision.
        have hbefore : found.lifecycle ≠ .resolved :=
          fun hlifecycle => hunresolved ⟨found, hfound, hother, hlifecycle⟩
        have hfinal : dispute.status.isFinal = true := by
          by_contra hnot
          exact hrevise.unresolved hother hbefore (by simpa using hnot) hlifecycle
        rw [hrevise.disputeId, hrevise.statusAt hother]
        exact ⟨⟨dispute, hpublished, hother.symm, hfinal⟩, fun event hevent heventId =>
          h.le_of_final hevent hpublished hfinal (heventId.trans hother)⟩
      · have hsame := hrevise.other hother
        rw [hsame] at hlifecycle ⊢
        exact ⟨h.final found hfound hlifecycle, h.newest found hfound hlifecycle⟩
    · intro later hlater hclosed
      obtain ⟨i, hi⟩ := List.mem_iff_getElem?.mp hlater
      obtain ⟨session, hsession, hrow⟩ := exists_became hbecomes hi
      rcases hwho i session later hsession hi with hsame | ⟨hdispute, -, hfinal⟩
      · exact Or.inl (hsame ▸ List.mem_of_getElem? hsession)
      · obtain ⟨row, hrowMem, hrowId, hrowResolved, -⟩ := hresolvedBy (hfinal hclosed)
        exact Or.inr ⟨row, hrowMem, by rw [hrowId, hrow.disputeId, hdispute], hrowResolved⟩
    · refine ⟨fun i session hsession => ?_, hstay, hids ▸ List.prefix_rfl, List.prefix_rfl,
        List.prefix_rfl, List.prefix_rfl, List.prefix_append _ _, List.prefix_rfl⟩
      obtain ⟨later, hlater, hrow⟩ := exists_becomes hbecomes hsession
      refine ⟨later, hlater, hrow, fun hlive hover => ?_⟩
      rcases hwho i session later hsession hlater with hsame | ⟨hdispute, -⟩
      · rw [hsame, hlive] at hover
        cases hover
      · rw [hdispute]
        exact hunresolved
    · refine ⟨fun _ hafter => hafter, fun id session later _ hsession hstate hlater => ?_,
        fun _ hmem => hmem⟩
      rcases hwho id session later hsession hlater with hsame | ⟨-, hterminal, -⟩
      · exact Or.inl (hsame ▸ hstate)
      · exact Or.inr hterminal

end Core

end Serbero
