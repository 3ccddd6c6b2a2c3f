import Serbero.Runtime.Launches

/-! # The life cycle of sessions over whole runs

Whatever the interleaving of openings, turns, ticks, revisions and restarts: sessions only move
forward, one session of a dispute is live at a time, and what claims a session documents it. -/

namespace Serbero

open Pool Relation

variable {deployment : Deployment} {condition : Condition Call Task Oracle Happening World}

/-! ## Runs -/

/-- One move keeps the invariant, and the world evolves. -/
theorem follows_of_moves {world world' : World}
    (h : (contract deployment condition).Moves world world') :
    world'.core.Inv ∧ world.Follows world' := by
  cases h with
  | @call β thread request oracle _ hinv hpre _ _ =>
    have hstepped := performCall_stepped deployment thread request oracle hinv hpre
    exact ⟨hstepped.inv, hstepped.follows⟩
  | launch hinv _ hlaunch =>
    have hstepped := launch_stepped hinv hlaunch
    exact ⟨hstepped.inv, hstepped.follows⟩
  | happen hinv _ hhappen =>
    have hstepped := happen_stepped hinv hhappen
    exact ⟨hstepped.inv, hstepped.follows⟩
  | restart hinv _ => exact restart_follows hinv

/-- Every state a run reaches keeps the contract. -/
theorem kept_of_run {clock : Int} {conf : Conf Call String Task World}
    (hrun : (machine deployment).RunsTo condition (Serbero.start clock) conf) :
    (contract deployment condition).Kept conf :=
  ((Contract.kept_of_start (inv_start clock)).run (launches deployment condition) hrun).1

/-- What comes later in a run evolved from what was before. -/
theorem follows_of_run {conf conf' : Conf Call String Task World}
    (hkept : (contract deployment condition).Kept conf)
    (hrun : (machine deployment).RunsTo condition conf conf') :
    conf.world.Follows conf'.world :=
  Contract.Moves.run_induction (fun later => conf.world.Follows later)
    (fun hfollows hmove => hfollows.trans (follows_of_moves hmove).2)
    (hkept.run (launches deployment condition) hrun).2 (.refl conf.world)

/-! ## Marks and events -/

/-- Marks are counted among all events. -/
theorem countMarks_marks (store : Store) (id : SessionId) {kind : EventKind → Bool}
    (hkind : ∀ event, kind event = true → event.isMark = true) :
    countMarks store.marks id kind = countMarks store.events id kind := by
  rw [countMarks, countMarks, Store.marks, List.countP_filter]
  refine List.countP_congr fun event _ => ?_
  cases hevent : kind event.kind with
  | false => simp
  | true => simp [hkind event.kind hevent]

/-- A hand-off is a mark. -/
theorem isMark_of_isHandoff (kind : EventKind) (h : kind.isHandoff = true) :
    kind.isMark = true := by
  cases kind <;> first | rfl | cases h

/-- So is the brief that it owes. -/
theorem isMark_of_isHandoffBrief (kind : EventKind) (h : kind.isHandoffBrief = true) :
    kind.isMark = true := by
  cases kind <;> first | rfl | cases h

/-- So is a guidance. -/
theorem isMark_of_isGuided (kind : EventKind) (h : kind.isGuided = true) : kind.isMark = true := by
  cases kind <;> first | rfl | cases h

/-- What a claim left among the marks, it left among the events. -/
theorem Logged.of_marks {store : Store} {sessions : List Session} {claim : SessionId × Claimer}
    (h : Logged sessions store.marks claim) : Logged sessions store.events claim := by
  have grow : ∀ {property : Event → Prop}, (∃ event ∈ store.marks, property event) →
      ∃ event ∈ store.events, property event :=
    fun ⟨event, hevent, hproperty⟩ => ⟨event, List.mem_of_mem_filter hevent, hproperty⟩
  unfold Logged at *
  split at h
  · obtain ⟨hhandoff, hevent, hbrief, hpending, hrow⟩ := h
    rw [countMarks_marks _ _ isMark_of_isHandoff] at hhandoff
    rw [countMarks_marks _ _ isMark_of_isHandoffBrief] at hbrief
    exact ⟨hhandoff, grow hevent, hbrief, grow hpending, hrow⟩
  · exact ⟨grow h.1, grow h.2.1, h.2.2⟩

/-! ## The life cycle -/

/-- The sessions of a world are in order. -/
structure World.Orderly (world : World) : Prop where
  /-- At most one session of a dispute is live. -/
  oneLive : ∀ a ∈ world.store.sessions, ∀ b ∈ world.store.sessions, a.isLive = true →
    b.isLive = true → a.disputeId = b.disputeId → a = b
  /-- A session with a reason was claimed once, any other never; a session without a reason was
  not handed off. -/
  claimed : ∀ session ∈ world.store.sessions,
    countClaims world.claims session.sessionId = (if session.handoffReason.isSome then 1 else 0) ∧
      (session.state = .handedOff → session.handoffReason.isSome)
  /-- Each claim is documented by its events. -/
  logged : ∀ claim ∈ world.claims, Logged world.store.sessions world.store.events claim
  /-- A session is guided once at most, and while it is guiding it was. -/
  guided : ∀ session ∈ world.store.sessions,
    countMarks world.store.events session.sessionId EventKind.isGuided ≤ 1 ∧
      (session.state = .guiding →
        countMarks world.store.events session.sessionId EventKind.isGuided = 1)

/-- The invariant of the core puts the sessions in order. -/
theorem orderly_of_inv {world : World} (h : world.core.Inv) : world.Orderly where
  oneLive a ha b hb halive hblive hdispute := by
    obtain ⟨i, hi, rfl⟩ := List.mem_iff_getElem.mp ha
    obtain ⟨j, hj, rfl⟩ := List.mem_iff_getElem.mp hb
    have horder := List.pairwise_iff_getElem.mp h.oneLive
    rcases Nat.lt_trichotomy i j with hlt | heq | hgt
    · exact absurd hdispute (horder i j hi hj hlt halive hblive)
    · subst heq
      rfl
    · exact absurd hdispute.symm (horder j i hj hi hgt hblive halive)
  claimed session hsession := by
    have hdocumented := h.documented session hsession
    refine ⟨?_, fun hstate => ?_⟩
    · split
      · next hsome => exact hdocumented.claimed (Option.isSome_iff_ne_none.mp hsome)
      · next hnone => exact (hdocumented.unclaimed (by simpa using hnone)).1
    · exact Option.isSome_iff_ne_none.mpr (hdocumented.handed hstate)
  logged claim hclaim := (h.logged claim hclaim).of_marks
  guided session hsession := by
    have hdocumented := h.documented session hsession
    rw [← countMarks_marks world.store session.sessionId isMark_of_isGuided]
    exact ⟨hdocumented.guidedOnce, hdocumented.guiding⟩

/-- **Session lifecycle safety.** In every state a run reaches the sessions are in order, and from
there on every session only moves forward, does not change once it ended, and keeps the reason of
its hand-off. -/
theorem session_lifecycle {clock : Int} {conf conf' : Conf Call String Task World}
    (hrun : (machine deployment).RunsTo Condition.always (Serbero.start clock) conf)
    (hlater : (machine deployment).RunsTo Condition.always conf conf') :
    conf'.world.Orderly ∧
      ∀ id session, conf.world.store.session id = some session →
        ∃ later, conf'.world.store.session id = some later ∧
          session.state.stage ≤ later.state.stage ∧
          (session.state.isTerminal = true → later.state = session.state) ∧
          ∀ reason, session.handoffReason = some reason → later.handoffReason = some reason := by
  have hkept := kept_of_run hrun
  have hkept' := kept_of_run (hrun.trans hlater)
  refine ⟨orderly_of_inv hkept'.1, fun id session hsession => ?_⟩
  rw [hkept.1.session_eq] at hsession
  obtain ⟨later, hfound, hbecomes, -⟩ :=
    (follows_of_run hkept hlater).core.sessions id session hsession
  rw [hkept'.1.session_eq]
  exact ⟨later, hfound, hbecomes.stage, fun hterminal => (hbecomes.ended hterminal).1,
    hbecomes.reason⟩

/-! ## A run -/

/-- A small deployment. -/
def smallDeployment : Deployment :=
  { settings :=
      { enabled := true, defaultLanguage := "en", languages := ["en"], maxRounds := 3
        maxMessageChars := 2000, maxMessagesPerTurn := 10, responseTimeout := 3600
        selfResolutionTimeout := 3600, handoffGrace := 600 }
    thresholds :=
      { guide := 9 / 10, fact := 7 / 10, humanRequest := 1 / 2, fraud := 1 / 2, conflict := 1 / 2
        outsideScope := 1 / 2, validatedLanguages := ["en"] }
    solvers := [⟨1, .write⟩]
    observers := []
    turnQuestions := "turn"
    briefQuestions := "brief"
    render := fun _ _ _ _ => .ok "text"
    nip19 := fun _ => false
    parts := fun _ => 1 }

/-- A thread makes its next calls, and nothing fails. -/
def quietly (thread calls : Nat) : List (Choice Task Oracle Happening) :=
  List.replicate calls (.run thread .quiet)

/-- The node publishes a dispute and the notifier tells the solvers, then Serbero considers it. -/
def notifiedSteps : List (Choice Task Oracle Happening) :=
  let dispute : DisputeEvent := ⟨1, .buyer, .initiated, 100, 0, false⟩
  [.happen (.publish dispute), .launch (.judgeChecks 0) .quiet] ++ quietly 0 3 ++
    [.launch (.handleEvent dispute) .quiet] ++ quietly 1 6 ++ [.launch (.consider 1) .quiet]

/-- Serbero claims the dispute and takes it. -/
def takenSteps : List (Choice Task Oracle Happening) :=
  notifiedSteps ++ quietly 2 3 ++
    [.run 2 { Oracle.quiet with take := .took .buyer 200 ⟨some "b", some "s", 40, "SEPA"⟩ }]

/-- Serbero opens the session and reaches both parties. -/
def openedSteps : List (Choice Task Oracle Happening) := takenSteps ++ quietly 2 16

/-- The parties resolve the dispute and the notifier hears of it. -/
def closedSteps : List (Choice Task Oracle Happening) :=
  let dispute : DisputeEvent := ⟨1, .buyer, .released, 2000, 2, false⟩
  [.happen (.publish dispute), .launch (.handleEvent dispute) .quiet] ++ quietly 3 3

/-- The buyer writes, and the judge fails in the turn that follows. -/
def unjudgedSteps : List (Choice Task Oracle Happening) :=
  let inbound : Inbound := ⟨0, .buyer, "hello", 0, 1, 1010, false⟩
  openedSteps ++ [.happen (.clock 1100), .happen (.receive inbound), .happen .touch,
    .launch (.turn 0) .quiet] ++
    quietly 3 4 ++ [.run 3 { Oracle.quiet with fails := some "no answer" }]

/-- Serbero mediates a first dispute. -/
def openedConf : Conf Call String Task World :=
  (machine smallDeployment).after Condition.always (Serbero.start 1000) openedSteps

/-- The life of a session that its parties resolved. -/
theorem session_lifecycle_closed :
    let closedConf := (machine smallDeployment).after Condition.always openedConf closedSteps
    closedConf.world.Orderly ∧
      ∀ id session, openedConf.world.store.session id = some session →
        ∃ later, closedConf.world.store.session id = some later ∧
          session.state.stage ≤ later.state.stage ∧
          (session.state.isTerminal = true → later.state = session.state) ∧
          ∀ reason, session.handoffReason = some reason → later.handoffReason = some reason :=
  session_lifecycle ((machine smallDeployment).runsTo_after (by decide +kernel))
    ((machine smallDeployment).runsTo_after (by decide +kernel))

end Serbero
