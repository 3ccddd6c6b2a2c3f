import Serbero.Runtime.Revisions
import Serbero.Runtime.System

/-! # The contract of Serbero's tasks

What a task must know before each call, and what it may expect of the others. Every call made with
that knowledge keeps the invariant of the core. -/

namespace Serbero

open Pool

/-- The parties resolved the session's dispute, and if the session is closed it was never handed
off. -/
def Core.Closing (core : Core) (id : SessionId) : Prop :=
  ∃ session, core.sessions[id]? = some session ∧ core.ResolvedBy session.disputeId true ∧
    (session.state = .closed → session.handoffReason = none)

/-- The thread's sessions of the dispute are no longer opening, but for those it left. -/
def Core.Settled (core : Core) (thread : Nat) (dispute : DisputeId) : Prop :=
  ∀ (id : SessionId) session, core.openedBy[id]? = some thread →
    core.sessions[id]? = some session → session.disputeId = dispute → session.state = .opening →
      id ∈ core.strayed

/-- What a task must know before a call. -/
def Needs (thread : Thread Task) {β : Type} (call : Call β) (world : World) : Prop :=
  match call with
  | .append new => new.kind.isMark = false
  | .handOff session _ _ => world.core.Known session.sessionId 1 session.disputeId
  | .startGuiding session _ _ => world.core.Known session.sessionId 1 session.disputeId
  | .recordHold session _ => world.core.Known session.sessionId 1 session.disputeId
  | .activate _ id _ => world.core.OwnOpening thread.number id
  | .abandon _ id _ _ => ∀ known, id = some known → world.core.OwnOpening thread.number known
  | .gate .live message =>
    message.template = .handoffNotice ∨ world.core.OwnOpening thread.number message.sessionId
  | .gate .closed message =>
    message.template = .resolvedThanks ∧ world.core.Closing message.sessionId
  | .sendEvent message => (thread.number, message) ∈ world.sending
  | .insertMessage new => new.direction = .outbound
  | .record dispute _ => dispute ∈ world.published
  | .claimTake id _ _ => world.core.Knows id
  | .insertSession id _ _ _ => (id, thread.number) ∈ world.ownTakes
  | .releaseTake id => (id, thread.number) ∈ world.ownTakes ∧ world.core.Settled thread.number id
  | .spawn task => ∀ id status byParties, task = .finish id status byParties →
      world.core.ResolvedBy id byParties
  | _ => True

/-- What is only ever added to. -/
structure Log where
  messages : List Message
  evaluations : List Evaluation
  insertedAt : List Nat
  activated : List SessionId
  passed : List Passed
  sent : List Passed
  told : List Told
  looks : List Look
  recorded : List DisputeEvent

/-- The log of a world. -/
def World.log (world : World) : Log :=
  { messages := world.store.messages
    evaluations := world.store.evaluations
    insertedAt := world.insertedAt
    activated := world.activated
    passed := world.passed
    sent := world.sent
    told := world.told
    looks := world.looks
    recorded := world.recorded }

/-- A log with more in it. -/
structure Log.Grows (before after : Log) : Prop where
  messages : before.messages <+: after.messages
  evaluations : before.evaluations <+: after.evaluations
  insertedAt : before.insertedAt <+: after.insertedAt
  activated : before.activated <+: after.activated
  passed : before.passed <+: after.passed
  sent : before.sent <+: after.sent
  told : before.told <+: after.told
  looks : before.looks <+: after.looks
  recorded : before.recorded <+: after.recorded

namespace Log.Grows

/-- A log grows into itself. -/
theorem refl (log : Log) : log.Grows log := by
  constructor <;> exact List.prefix_rfl

/-- What is unchanged has grown. -/
theorem of_eq {before after : Log} (h : after = before) : before.Grows after := h ▸ refl before

/-- One growth after another. -/
theorem trans {a b c : Log} (h : a.Grows b) (h' : b.Grows c) : a.Grows c where
  messages := h.messages.trans h'.messages
  evaluations := h.evaluations.trans h'.evaluations
  insertedAt := h.insertedAt.trans h'.insertedAt
  activated := h.activated.trans h'.activated
  passed := h.passed.trans h'.passed
  sent := h.sent.trans h'.sent
  told := h.told.trans h'.told
  looks := h.looks.trans h'.looks
  recorded := h.recorded.trans h'.recorded

end Log.Grows

/-- How the world evolves. -/
structure World.Follows (before after : World) : Prop where
  core : before.core.Follows after.core
  log : before.log.Grows after.log

namespace World.Follows

/-- A world follows itself. -/
theorem refl (world : World) : world.Follows world := ⟨.refl _, .refl _⟩

/-- What follows what follows. -/
theorem trans {a b c : World} (h : a.Follows b) (h' : b.Follows c) : a.Follows c :=
  ⟨h.core.trans h'.core, h.log.trans h'.log⟩

end World.Follows

/-- What a step of something else leaves to a thread: its openings, its takes, and the message it
is about to send. -/
structure World.Leaves (thread : Nat) (before after : World) : Prop where
  core : Core.Leaves thread before.core after.core
  sending : ∀ message, (thread, message) ∈ before.sending → (thread, message) ∈ after.sending

/-- What is left to a thread twice is left to it. -/
theorem World.Leaves.trans {thread : Nat} {a b c : World} (h : World.Leaves thread a b)
    (hfollows : a.Follows b) (hfollows' : b.Follows c) (h' : World.Leaves thread b c) :
    World.Leaves thread a c := by
  refine ⟨⟨fun id hopened => h.core.opened id (h'.core.opened id hopened), ?_, ?_⟩,
    fun message hmem => h'.sending message (h.sending message hmem)⟩
  · intro id session later hopened hsession hstate hlater
    obtain ⟨mid, hmid, -, -⟩ := hfollows.core.sessions id session hsession
    obtain ⟨found, hfound, hbecomes, -⟩ := hfollows'.core.sessions id mid hmid
    rw [hlater, Option.some.injEq] at hfound
    subst hfound
    rcases h.core.openings id session mid hopened hsession hstate hmid with hopen | hended
    · exact h'.core.openings id mid later (hfollows.core.opener hopened) hmid hopen hlater
    · exact Or.inr ((hbecomes.ended hended).1 ▸ hended)
  · exact fun dispute hmem => h'.core.takes dispute (h.core.takes dispute hmem)

/-- A step keeps the invariant, the world evolves, and the threads it is not of keep what is
theirs. -/
structure Stepped (own : Nat → Prop) (before after : World) : Prop where
  inv : after.core.Inv
  follows : before.Follows after
  leaves : ∀ thread, ¬own thread → World.Leaves thread before after

namespace Stepped

variable {own : Nat → Prop} {before after : World}

/-- A step of the core. -/
theorem of_core {core : Core} (h : Core.Kept own before.core core) (hcore : after.core = core)
    (hlog : before.log.Grows after.log)
    (hsending : ∀ thread, ¬own thread → ∀ message, (thread, message) ∈ before.sending →
      (thread, message) ∈ after.sending) : Stepped own before after := by
  subst hcore
  exact ⟨h.inv, ⟨h.follows, hlog⟩, fun thread hthread =>
    ⟨h.leaves thread hthread, hsending thread hthread⟩⟩

/-- A step outside the core. -/
theorem of_same (h : before.core.Inv) (hcore : after.core = before.core)
    (hlog : before.log.Grows after.log) (hsending : after.sending = before.sending) :
    Stepped own before after :=
  of_core (h.kept own) hcore hlog fun _ _ _ hmem => hsending ▸ hmem

/-- Doing nothing is a step. -/
theorem refl (h : before.core.Inv) : Stepped own before before := of_same h rfl (.refl _) rfl

end Stepped

namespace Core

variable {core : Core}

/-- A closing stays one as the core evolves. -/
theorem Closing.mono {core' : Core} {id : SessionId} (h : core.Closing id)
    (hfollows : core.Follows core') : core'.Closing id := by
  obtain ⟨session, hsession, hresolved, hreason⟩ := h
  obtain ⟨later, hlater, hbecomes, hended⟩ := hfollows.sessions id session hsession
  refine ⟨later, hlater, ?_, fun hclosed => ?_⟩
  · rw [hbecomes.disputeId]
    exact hresolved.mono hfollows
  · by_cases hlive : session.isLive = true
    · -- No session ends once its dispute is resolved.
      have hover : later.isLive = false := by rw [Session.isLive, hclosed]; rfl
      exact absurd hresolved.resolved (hended hlive hover)
    · have hterminal : session.state.isTerminal = true := by simpa [Session.isLive] using hlive
      obtain ⟨hstate, hsame⟩ := hbecomes.ended hterminal
      rw [hsame]
      exact hreason (hstate ▸ hclosed)

/-- Inserting the first live session of a dispute. -/
theorem Inv.insertSession (h : core.Inv) (row : Session) (thread : Nat)
    (hid : row.sessionId = core.sessions.length) (hstate : row.state = .opening)
    (hreason : row.handoffReason = none) (htaken : (row.disputeId, thread) ∈ core.ownTakes)
    (hfirst : ∀ other ∈ core.sessions, other.isLive = true → other.disputeId ≠ row.disputeId) :
    Kept (· = thread) core { core with
      sessions := core.sessions ++ [row], openedBy := core.openedBy ++ [thread] } := by
  have hplace : ∀ (i : Nat) session, (core.sessions ++ [row])[i]? = some session →
      core.sessions[i]? = some session ∨ (i = core.sessions.length ∧ session = row) := by
    intro i session hi
    rcases Nat.lt_trichotomy i core.sessions.length with hlt | heq | hgt
    · rw [List.getElem?_append_left hlt] at hi
      exact Or.inl hi
    · rw [heq, List.getElem?_concat_length, Option.some.injEq] at hi
      exact Or.inr ⟨heq, hi.symm⟩
    · rw [List.getElem?_eq_none (by simp; omega)] at hi
      cases hi
  have hkeep : ∀ (i : Nat) session, core.sessions[i]? = some session →
      (core.sessions ++ [row])[i]? = some session := fun i session hi => by
    rw [List.getElem?_append_left (List.getElem?_eq_some_iff.mp hi).1]
    exact hi
  have hnoMarks : ∀ kind, countMarks core.marks row.sessionId kind = 0 := by
    intro kind
    refine countMarks_eq_zero fun event hevent hmark => ?_
    have hlt := h.marksKnown event hevent _ hmark
    rw [hid] at hlt
    exact absurd hlt (Nat.lt_irrefl _)
  have hnoClaims : countClaims core.claims row.sessionId = 0 := by
    rw [countClaims, List.countP_eq_zero]
    intro claim hclaim heq
    have hlt := h.claimsKnown claim hclaim
    have heq : claim.1 = row.sessionId := by simpa using heq
    rw [heq, hid] at hlt
    exact Nat.lt_irrefl _ hlt
  refine ⟨⟨?_, ?_, ?_, h.disputes, h.takes, ?_, h.takesKnown, ?_, ?_, ?_, ?_, ?_, ?_, h.counted,
    h.ordered, h.final, h.newest, h.resolutions, h.closings⟩, ⟨?_, fun _ hrow _ => hrow,
    List.prefix_rfl, List.prefix_append _ _, List.prefix_rfl, List.prefix_rfl, List.prefix_rfl,
    List.prefix_rfl⟩, fun other hother => ⟨?_, ?_, fun _ hmem => hmem⟩⟩
  · intro i session hi
    rcases hplace i session hi with hold | ⟨heq, rfl⟩
    · exact h.numbered i session hold
    · exact hid.trans heq.symm
  · rw [List.pairwise_append]
    refine ⟨h.oneLive, List.pairwise_singleton _ _, ?_⟩
    intro other hother found hfound hlive _
    rw [List.mem_singleton.mp hfound]
    exact hfirst other hother hlive
  · simp [h.openers]
  · intro session hsession
    rcases List.mem_append.mp hsession with hold | hnew
    · exact h.known session hold
    · rw [List.mem_singleton.mp hnew]
      exact h.takesKnown _ htaken
  · intro session hsession hclosed
    rcases List.mem_append.mp hsession with hold | hnew
    · exact h.closed session hold hclosed
    · rw [List.mem_singleton.mp hnew, hstate] at hclosed
      cases hclosed
  · intro id session hsession hopening hnot
    rcases hplace id session hsession with hold | ⟨rfl, rfl⟩
    · obtain ⟨holder, hopened, htake⟩ := h.held id session hold hopening hnot
      refine ⟨holder, ?_, htake⟩
      rw [List.getElem?_append_left (List.getElem?_eq_some_iff.mp hopened).1]
      exact hopened
    · refine ⟨thread, ?_, htaken⟩
      rw [← h.openers]
      exact List.getElem?_concat_length
  · intro session hsession
    rcases List.mem_append.mp hsession with hold | hnew
    · exact h.documented session hold
    · rw [List.mem_singleton.mp hnew]
      exact
        { early := fun _ => hreason
          handed := fun hover => by rw [hstate] at hover; cases hover
          unclaimed := fun _ => ⟨hnoClaims, hnoMarks _, hnoMarks _⟩
          claimed := fun hsome => absurd hreason hsome
          notGuided := fun _ => hnoMarks _
          guidedOnce := by rw [hnoMarks]; exact Nat.zero_le 1
          guiding := fun hover => by rw [hstate] at hover; cases hover }
  · intro claim hclaim
    have := h.logged claim hclaim
    unfold Logged at *
    have grow : ∀ {property : Session → Prop}, (∃ session ∈ core.sessions, property session) →
        ∃ session ∈ core.sessions ++ [row], property session :=
      fun ⟨session, hsession, hrest⟩ => ⟨session, List.mem_append_left _ hsession, hrest⟩
    split at this
    · exact ⟨this.1, this.2.1, this.2.2.1, this.2.2.2.1, grow this.2.2.2.2⟩
    · exact ⟨this.1, this.2.1, grow this.2.2⟩
  · intro claim hclaim
    rw [List.length_append, List.length_singleton]
    exact Nat.lt_succ_of_lt (h.claimsKnown claim hclaim)
  · intro event hevent id hmark
    rw [List.length_append, List.length_singleton]
    exact Nat.lt_succ_of_lt (h.marksKnown event hevent id hmark)
  · intro i session hi
    refine ⟨session, hkeep i session hi, .refl session, fun hlive hover => ?_⟩
    rw [hlive] at hover
    cases hover
  · -- The new session is the thread's own.
    intro id hopened
    rcases Nat.lt_trichotomy id core.openedBy.length with hlt | heq | hgt
    · rw [List.getElem?_append_left hlt] at hopened
      exact hopened
    · rw [heq, List.getElem?_concat_length, Option.some.injEq] at hopened
      exact absurd hopened.symm hother
    · rw [List.getElem?_eq_none (by simp; omega)] at hopened
      cases hopened
  · intro id session later _ hsession hopening hlater
    simp only [hkeep id session hsession, Option.some.injEq] at hlater
    exact Or.inl (hlater ▸ hopening)

/-- A change of takes alone. -/
theorem Inv.withTakes (h : core.Inv) {takes : List (DisputeId × Nat)} {own : Nat → Prop}
    (hnodup : (takes.map Prod.fst).Nodup) (hknown : ∀ take ∈ takes, core.Knows take.1)
    (hheld : ∀ (id : SessionId) session, core.sessions[id]? = some session →
      session.state = .opening → id ∉ core.strayed →
        ∃ thread, core.openedBy[id]? = some thread ∧ (session.disputeId, thread) ∈ takes)
    (hkeep : ∀ thread, ¬own thread → ∀ dispute, (dispute, thread) ∈ core.ownTakes →
      (dispute, thread) ∈ takes) :
    Kept own core { core with ownTakes := takes } where
  inv := { h with takes := hnodup, takesKnown := hknown, held := hheld }
  follows :=
    { sessions := (Follows.refl core).sessions
      resolved := fun _ hrow _ => hrow
      known := List.prefix_rfl
      openedBy := List.prefix_rfl
      strayed := List.prefix_rfl
      claims := List.prefix_rfl
      marks := List.prefix_rfl
      published := List.prefix_rfl }
  leaves thread hthread := by
    apply leaves_of_sessions
    · rfl
    · rfl
    · exact hkeep thread hthread

/-- One more opening that was left. -/
theorem Inv.stray (h : core.Inv) (id : SessionId) (own : Nat → Prop) :
    Kept own core { core with strayed := core.strayed ++ [id] } where
  inv := { h with
    held := fun found session hsession hopening hnot =>
      h.held found session hsession hopening fun hmem => hnot (List.mem_append_left _ hmem) }
  follows := { Follows.refl core with strayed := List.prefix_append _ _ }
  leaves thread _ := by apply leaves_of_eq <;> rfl

/-- A change of the tasks that wait to start. -/
theorem Inv.withSpawned (h : core.Inv) {spawned : List Task} (own : Nat → Prop)
    (hclosings : ∀ task ∈ spawned, ∀ id status byParties,
      task = .finish id status byParties → core.ResolvedBy id byParties) :
    Kept own core { core with spawned := spawned } where
  inv := { h with closings := hclosings }
  follows :=
    { sessions := (Follows.refl core).sessions
      resolved := fun _ hrow _ => hrow
      known := List.prefix_rfl
      openedBy := List.prefix_rfl
      strayed := List.prefix_rfl
      claims := List.prefix_rfl
      marks := List.prefix_rfl
      published := List.prefix_rfl }
  leaves thread _ := by apply leaves_of_eq <;> rfl

/-- The node publishes a revision it may publish. -/
theorem Inv.publish (h : core.Inv) {event : DisputeEvent} (own : Nat → Prop)
    (hnumber : event.number = core.published.length)
    (hcan : ∀ earlier ∈ core.published, earlier.disputeId = event.disputeId →
      earlier.status.isFinal = false ∧ earlier.revisionAt ≤ event.revisionAt) :
    Kept own core { core with published := core.published ++ [event] } where
  inv := { h with
    counted := fun i found hfound => by
      rcases Nat.lt_trichotomy i core.published.length with hlt | rfl | hgt
      · rw [List.getElem?_append_left hlt] at hfound
        exact h.counted i found hfound
      · rw [List.getElem?_concat_length, Option.some.injEq] at hfound
        rw [← hfound, hnumber]
      · rw [List.getElem?_eq_none (by simp; omega)] at hfound
        cases hfound
    ordered := by
      rw [List.pairwise_append]
      refine ⟨h.ordered, List.pairwise_singleton _ _, ?_⟩
      intro earlier hearlier later hlater hdispute
      rw [List.mem_singleton.mp hlater] at hdispute ⊢
      exact hcan earlier hearlier hdispute
    final := fun row hrow hresolved => by
      obtain ⟨final, hfinal, hrest⟩ := h.final row hrow hresolved
      exact ⟨final, List.mem_append_left _ hfinal, hrest⟩
    newest := fun row hrow hresolved found hfound hdispute => by
      rcases List.mem_append.mp hfound with hold | hnew
      · exact h.newest row hrow hresolved found hold hdispute
      · -- Nothing is published after the final revision that resolved the dispute.
        obtain ⟨final, hfinal, hid, hstatus⟩ := h.final row hrow hresolved
        rw [List.mem_singleton.mp hnew] at hdispute
        have := (hcan final hfinal (hid.trans hdispute.symm)).1
        rw [hstatus] at this
        cases this }
  follows :=
    { sessions := (Follows.refl core).sessions
      resolved := fun _ hrow _ => hrow
      known := List.prefix_rfl
      openedBy := List.prefix_rfl
      strayed := List.prefix_rfl
      claims := List.prefix_rfl
      marks := List.prefix_rfl
      published := List.prefix_append _ _ }
  leaves thread _ := by apply leaves_of_eq <;> rfl

/-- A notification leaves a resolved dispute alone. -/
theorem Inv.markNotified {world : World} (h : world.core.Inv) (id : DisputeId) (now : Int)
    (own : Nat → Prop) :
    Kept own world.core { world.core with
      disputes := (world.store.markNotified id now).disputes } := by
  -- The stamp picks no resolved row.
  have hrows : ∀ row : Dispute, row.lifecycle = .resolved →
      (row.disputeId == id && (row.lifecycle == .new || row.lifecycle == .notified)) = false := by
    intro row hresolved
    simp [hresolved]
  have hstay : ∀ row ∈ world.core.disputes, row.lifecycle = .resolved →
      row ∈ (world.store.markNotified id now).disputes := by
    intro row hrow hlifecycle
    refine List.mem_map.mpr ⟨row, hrow, ?_⟩
    rw [if_neg (by simp [hrows row hlifecycle])]
  have hback : ∀ row ∈ (world.store.markNotified id now).disputes, row.lifecycle = .resolved →
      row ∈ world.store.disputes := by
    intro row hrow hlifecycle
    obtain ⟨before, hbefore, rfl⟩ := List.mem_map.mp hrow
    -- A stamped row is `notified`, so a resolved one was not stamped.
    split at hlifecycle
    · cases hlifecycle
    · next hpicked =>
      rw [if_neg hpicked]
      exact hbefore
  have hids : (world.store.markNotified id now).disputes.map Dispute.disputeId =
      world.core.disputes.map Dispute.disputeId := by
    rw [Store.markNotified, Store.updateDisputes, List.map_map]
    refine List.map_congr_left fun row _ => ?_
    simp only [Function.comp_apply]
    split <;> rfl
  have hinv : Inv { world.core with
      disputes := (world.store.markNotified id now).disputes
      marks := world.core.marks ++ [] } := h.revise
    (List.forall₂_same.mpr fun row _ => .refl row) h.documented (hids ▸ h.disputes)
    (fun row hrow hlifecycle => ⟨h.final row (hback row hrow hlifecycle) hlifecycle,
      h.newest row (hback row hrow hlifecycle) hlifecycle⟩) hstay (hids ▸ List.prefix_rfl)
    (fun _ hsession _ => Or.inl hsession) (by simp) (by simp)
  rw [List.append_nil] at hinv
  exact
    { inv := hinv
      follows :=
        { sessions := (Follows.refl world.core).sessions
          resolved := hstay
          known := hids ▸ List.prefix_rfl
          openedBy := List.prefix_rfl
          strayed := List.prefix_rfl
          claims := List.prefix_rfl
          marks := List.prefix_rfl
          published := List.prefix_rfl }
      leaves := fun thread _ => by apply leaves_of_eq <;> rfl }

end Core

end Serbero
