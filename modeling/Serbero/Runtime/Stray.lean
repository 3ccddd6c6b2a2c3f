import Serbero.Runtime.Takeover

/-! # Openings that fail

The take of a dispute is held until its opening is over, and by then the session left `opening`,
unless a step failed after the insertion where nothing is recorded about it, or the process ended.
A session that never became active was handed off as `opening_failed`, or a revision ended it. -/

namespace Serbero

open Pool Relation

variable {deployment : Deployment}

/-- The session is opening. -/
def World.isOpening (world : World) (id : SessionId) : Bool :=
  (world.store.session id).any fun session => session.state == .opening

/-- Nothing fails between the insertion of a session and the end of its opening but the sends to the
parties, the process does not end while a session is opening, and the parties resolve no dispute
whose session is opening. -/
def attended : Condition Call Task Oracle Happening World where
  call thread request oracle world :=
    match request with
    | .insertSession id _ _ _ =>
      oracle.fails.isSome || oracle.breaks.isNone || (world.store.liveForDispute id).isSome
    | .openChat id =>
      (oracle.fails.isNone && oracle.breaks.isNone) ||
        world.openedBy[id]? != some thread.number || !world.isOpening id
    | .activate _ id _ => oracle.fails.isNone || !world.isOpening id
    | .abandon _ id _ _ => oracle.fails.isNone || !id.any world.isOpening
    | .record dispute _ =>
      oracle.fails.isSome || !dispute.status.resolvedByParties ||
        !((world.store.dispute dispute.disputeId).any fun row =>
          decide (row.statusAt < dispute.revisionAt)) ||
        !(world.store.liveForDispute dispute.disputeId).any fun session =>
          session.state == .opening
    | _ => true
  launch _ _ _ := true
  happen _ _ := true
  restart _ world := !world.store.sessions.any fun session => session.state == .opening

/-- A session that never became active waits for its opening, or that failed, or a revision ended
it, and not by the parties' own resolution. -/
inductive Waiting (core : Core) (session : Session) : Prop
  | opening (h : session.state = .opening)
  | handedOff (h : session.state = .handedOff)
      (hreason : session.handoffReason = some .openingFailed)
  | superseded (h : session.state = .superseded)
  | closed (h : session.state = .closed)
      (hby : session.handoffReason = none → core.ResolvedBy session.disputeId false)

/-- A session that waits keeps waiting as it moves forward, unless it was opening. -/
theorem Waiting.becomes {core core' : Core} {session found : Session} (h : Waiting core session)
    (hbecomes : session.Becomes found) (hfollows : core.Follows core')
    (hopening : session.state = .opening → Waiting core' found) : Waiting core' found := by
  cases h with
  | opening hstate => exact hopening hstate
  | handedOff hstate hreason =>
    have hstage := hbecomes.stage
    have hkept := hbecomes.reason _ hreason
    rw [hstate] at hstage
    cases hfound : found.state with
    | handedOff => exact .handedOff hfound hkept
    | superseded => exact .superseded hfound
    | closed =>
      refine .closed hfound fun hnone => ?_
      rw [hkept] at hnone
      cases hnone
    | opening => rw [hfound] at hstage; exact absurd hstage (by decide)
    | active => rw [hfound] at hstage; exact absurd hstage (by decide)
    | guiding => rw [hfound] at hstage; exact absurd hstage (by decide)
  | superseded hstate =>
    refine .superseded ?_
    rw [(hbecomes.ended (by rw [hstate]; rfl)).1]
    exact hstate
  | closed hstate hby =>
    obtain ⟨hsame, hreason⟩ := hbecomes.ended (by rw [hstate]; rfl)
    refine .closed (hsame.trans hstate) fun hnone => ?_
    rw [hbecomes.disputeId]
    exact (hby (hreason ▸ hnone)).mono hfollows

/-- Waiting looks at nothing but the session and the disputes. -/
theorem Waiting.of_disputes {core core' : Core} {session : Session} (h : Waiting core session)
    (hdisputes : core'.disputes = core.disputes) : Waiting core' session := by
  cases h with
  | opening hstate => exact .opening hstate
  | handedOff hstate hreason => exact .handedOff hstate hreason
  | superseded hstate => exact .superseded hstate
  | closed hstate hby =>
    refine .closed hstate fun hnone => ?_
    rw [Core.ResolvedBy, hdisputes]
    exact hby hnone

/-- No left session is opening, and what never became active waits. -/
structure World.Attended (world : World) : Prop where
  strayed : ∀ id ∈ world.strayed, ∃ session, world.core.sessions[id]? = some session ∧
    session.state ≠ .opening
  waiting : ∀ (id : SessionId) session, world.core.sessions[id]? = some session →
    id ∉ world.activated → Waiting world.core session

namespace World.Attended

variable {world later : World}

/-- A session that is not opening will not be. -/
theorem keeps_strayed (h : world.Attended) (hfollows : world.Follows later) :
    ∀ id ∈ world.strayed, ∃ session, later.core.sessions[id]? = some session ∧
      session.state ≠ .opening := by
  intro id hid
  obtain ⟨session, hsession, hstate⟩ := h.strayed id hid
  obtain ⟨found, hfound, hbecomes, -⟩ := hfollows.core.sessions id session hsession
  exact ⟨found, hfound, fun hopening => hstate (hbecomes.opening_of_opening hopening)⟩

/-- Nothing is inserted, activated or left, and what is opening still waits. -/
theorem advance (h : world.Attended) (hinv : world.core.Inv) (hinv' : later.core.Inv)
    (hfollows : world.Follows later) (hopened : later.openedBy = world.openedBy)
    (hstrayed : later.strayed = world.strayed)
    (hactivated : ∀ id ∈ world.activated, id ∈ later.activated)
    (hopening : ∀ (id : SessionId) session found, world.core.sessions[id]? = some session →
      later.core.sessions[id]? = some found → session.state = .opening → id ∉ later.activated →
        Waiting later.core found) : later.Attended where
  strayed := by
    rw [hstrayed]
    exact h.keeps_strayed hfollows
  waiting id found hfound hnot := by
    obtain ⟨session, hsession, hbecomes⟩ := exists_before hinv hinv' hfollows hopened hfound
    refine (h.waiting id session hsession fun hmem => hnot (hactivated id hmem)).becomes hbecomes
      hfollows.core fun hstate => hopening id session found hsession hfound hstate hnot

/-- A step that leaves the rows alone. -/
theorem of_rows (h : world.Attended) (hinv : world.core.Inv) (hinv' : later.core.Inv)
    (hfollows : world.Follows later) (hopened : later.openedBy = world.openedBy)
    (hstrayed : later.strayed = world.strayed) (hactivated : later.activated = world.activated)
    (hsessions : later.core.sessions = world.core.sessions) : later.Attended := by
  refine h.advance hinv hinv' hfollows hopened hstrayed (fun id hid => hactivated ▸ hid) ?_
  intro id session found hsession hfound hopening _
  rw [hsessions, hsession, Option.some.injEq] at hfound
  exact .opening (hfound ▸ hopening)

/-- Leaving an opening that is over. -/
theorem strays (h : world.Attended) (hinv : world.core.Inv) {number : Nat} {id : SessionId}
    (hover : world.openedBy[id]? = some number → world.isOpening id = false) :
    (world.stray number id).Attended := by
  unfold World.stray
  split
  · next hopened =>
    refine ⟨fun found hfound => ?_, fun found session hsession hnot =>
      (h.waiting found session hsession hnot).of_disputes rfl⟩
    rcases List.mem_append.mp hfound with hold | hnew
    · exact h.strayed found hold
    · rw [List.mem_singleton.mp hnew]
      have hlt : id < world.core.sessions.length :=
        hinv.openers ▸ (List.getElem?_eq_some_iff.mp hopened).1
      have hnot := hover hopened
      rw [World.isOpening, hinv.session_eq, List.getElem?_eq_getElem hlt, Option.any_some,
        beq_eq_false_iff_ne] at hnot
      exact ⟨_, List.getElem?_eq_getElem hlt, hnot⟩
  · exact h

/-- Inserting a session. -/
theorem inserts (h : world.Attended) (opener : Nat) {row : Session} (hstate : row.state = .opening)
    (hfollows : world.Follows (world.withSession opener row)) :
    (world.withSession opener row).Attended where
  strayed := h.keeps_strayed hfollows
  waiting id found hfound hnot := by
    rcases Nat.lt_or_ge id world.core.sessions.length with hlt | hge
    · change (world.core.sessions ++ [row])[id]? = some found at hfound
      rw [List.getElem?_append_left hlt] at hfound
      have hwaiting := h.waiting id found hfound hnot
      exact hwaiting.becomes (.refl found) hfollows.core fun hopening => .opening hopening
    · have hmem := List.mem_of_getElem? hfound
      change (world.core.sessions ++ [row])[id]? = some found at hfound
      rw [List.getElem?_append_right hge] at hfound
      have := List.mem_singleton.mp (List.mem_of_getElem? hfound)
      exact .opening (this ▸ hstate)

/-- The end of an opening: the session is active, or it ended before. -/
theorem activates (h : world.Attended) (hinv : world.core.Inv) {observers : List Nat}
    {dispute : DisputeId} {id : SessionId} {now : Int}
    (hinv' : (world.activate observers dispute id now).core.Inv)
    (hfollows : world.Follows (world.activate observers dispute id now)) :
    (world.activate observers dispute id now).Attended := by
  refine h.advance hinv hinv' hfollows rfl rfl (fun _ hid => ?_) ?_
  · simp only [World.activate]
    split
    · exact List.mem_append_left _ hid
    · exact hid
  · intro place session found hsession hfound hopening hnot
    simp only [World.core, World.activate, Store.queueForObservers_sessions, Store.setState,
      Store.updateSessions, List.getElem?_map] at hfound
    rw [show world.store.sessions[place]? = _ from hsession, Option.map_some,
      Option.some.injEq] at hfound
    split at hfound
    · -- The session set to active is recorded as activated.
      next hpicked =>
      rw [Bool.and_eq_true, beq_iff_eq] at hpicked
      refine absurd ?_ hnot
      have hid : session.sessionId = place := hinv.numbered place session hsession
      have hplace : place = id := hid.symm.trans hpicked.1
      simp only [World.activate]
      rw [hinv.session_eq, ← hplace, hsession, Option.any_some, hpicked.2, if_pos rfl]
      exact List.mem_append_right _ List.mem_cons_self
    · exact .opening (hfound ▸ hopening)

/-- The transaction of a failed opening hands the session off. -/
theorem abandons (h : world.Attended) (hinv : world.core.Inv) {observers : List Nat}
    {dispute : DisputeId} {id : Option SessionId} {reason : String} {now : Int}
    (hinv' : (world.abandon observers dispute id reason now).core.Inv)
    (hfollows : world.Follows (world.abandon observers dispute id reason now)) :
    (world.abandon observers dispute id reason now).Attended := by
  refine h.advance hinv hinv' hfollows rfl rfl (fun _ hid => hid) ?_
  intro place session found hsession hfound hopening _
  obtain ⟨hsessions, -⟩ :=
    Stepped.abandonOpening_spec world.store observers dispute id reason now
  change (world.store.abandonOpening observers dispute id reason now).sessions[place]? = _
    at hfound
  rw [hsessions] at hfound
  cases id with
  | none =>
    rw [show world.store.sessions[place]? = _ from hsession, Option.some.injEq] at hfound
    exact .opening (hfound ▸ hopening)
  | some id =>
    simp only [Store.handOff, Store.updateSessions, List.getElem?_map] at hfound
    rw [show world.store.sessions[place]? = _ from hsession, Option.map_some,
      Option.some.injEq] at hfound
    split at hfound
    · exact .handedOff (by rw [← hfound]) (by rw [← hfound])
    · exact .opening (hfound ▸ hopening)

/-- Recording a revision: an opening session is taken over, or a solver's resolution closes it. -/
theorem records (h : world.Attended) (hinv : world.core.Inv) {dispute : DisputeEvent} {now : Int}
    {recorded : List DisputeEvent}
    (hattended : (!dispute.status.resolvedByParties ||
      !((world.store.dispute dispute.disputeId).any fun row =>
          decide (row.statusAt < dispute.revisionAt)) ||
      !(world.store.liveForDispute dispute.disputeId).any fun session =>
          session.state == .opening) = true)
    (hinv' : ({ world with
      store := (world.store.record dispute now).2, recorded := recorded } : World).core.Inv)
    (hfollows : world.Follows
      { world with store := (world.store.record dispute now).2, recorded := recorded }) :
    World.Attended
      { world with store := (world.store.record dispute now).2, recorded := recorded } := by
  refine h.advance hinv hinv' hfollows rfl rfl (fun _ hid => hid) ?_
  intro id session found hsession hfound hopening _
  change (world.store.record dispute now).2.sessions[id]? = some found at hfound
  have same : found = session → Waiting ({ world with
      store := (world.store.record dispute now).2, recorded := recorded } : World).core found :=
    fun heq => .opening (heq ▸ hopening)
  obtain ⟨-, -, hnone | hsame | hnewer⟩ := world.store.record_cases dispute now
  · rw [hnone.2.1, show world.store.sessions[id]? = _ from hsession, Option.some.injEq] at hfound
    exact same hfound.symm
  · obtain ⟨existing, -, -, heq⟩ := hsame
    rw [heq, show world.store.sessions[id]? = _ from hsession, Option.some.injEq] at hfound
    exact same hfound.symm
  · obtain ⟨existing, hexisting, hnewerAt, -, -, hrevised, hended⟩ := hnewer
    have hmem := List.mem_of_find?_eq_some hexisting
    have hexistingId : existing.disputeId = dispute.disputeId := by
      simpa using List.find?_some hexisting
    generalize hsessions : (world.store.record dispute now).2.sessions = sessions
      at hended hfound
    cases hended with
    | kept _ =>
      rw [show world.store.sessions[id]? = _ from hsession, Option.some.injEq] at hfound
      exact same hfound.symm
    | superseded _ _ _ =>
      rw [Store.setState, Store.updateSessions, List.getElem?_map,
        show world.store.sessions[id]? = _ from hsession, Option.map_some,
        Option.some.injEq] at hfound
      split at hfound
      · exact .superseded (by rw [← hfound])
      · exact same hfound.symm
    | @closed live hlive hfinal =>
      obtain ⟨hliveAt, hliveDispute, hliveLive⟩ := hinv.of_liveForDispute rfl hlive
      rw [Store.setState, Store.updateSessions, List.getElem?_map,
        show world.store.sessions[id]? = _ from hsession, Option.map_some,
        Option.some.injEq] at hfound
      split at hfound
      · next hpicked =>
        rw [Bool.and_eq_true, beq_iff_eq] at hpicked
        have hsameLive : session = live :=
          hinv.row_eq hliveAt (List.mem_of_getElem? hsession) hpicked.1
        -- The parties do not resolve a dispute whose session is opening.
        have hby : dispute.status.resolvedByParties = false := by
          by_contra hparties
          rw [Bool.not_eq_false] at hparties
          simp [hparties, hexisting, hnewerAt, hlive, ← hsameLive, hopening] at hattended
        refine .closed (by rw [← hfound]) fun _ => ?_
        obtain ⟨hlength, hget⟩ := List.forall₂_iff_get.mp hrevised
        obtain ⟨i, hi, rfl⟩ := List.mem_iff_getElem.mp hmem
        have hrevise := hget i hi (hlength ▸ hi)
        refine ⟨_, List.getElem_mem (hlength ▸ hi), ?_, hrevise.resolved hexistingId hfinal, ?_⟩
        · rw [← hfound]
          exact (hrevise.disputeId.trans hexistingId).trans
            (hliveDispute.symm.trans (by rw [hsameLive]))
        · rw [← hby]
          exact congrArg _ (hrevise.status hexistingId)
      · exact same hfound.symm

/-- **One move** of an attended run. -/
theorem of_moves (h : world.Attended) (hinv : world.core.Inv)
    (hmove : (contract deployment attended).Moves world later) : later.Attended := by
  obtain ⟨hinv', hfollows⟩ := follows_of_moves hmove
  cases effect_of_moves hmove with
  | quiet hquiet =>
    refine h.advance hinv hinv' hfollows (congrArg Traces.openedBy hquiet.traces)
      (congrArg Traces.strayed hquiet.traces) (fun id hid => ?_) ?_
    · rw [show later.activated = world.activated from congrArg Traces.activated hquiet.traces]
      exact hid
    · exact fun id session found hsession hfound hopening _ =>
        .opening (hquiet.openings id session found hsession hfound hopening)
  | restart hcond =>
    -- The condition lets no restart come while a session is opening, so none is left behind by it.
    have hnone : (world.store.sessions.filter fun row => row.state == .opening) = [] := by
      rw [List.filter_eq_nil_iff]
      intro row hrow hopening
      have : (world.store.sessions.any fun session => session.state == .opening) = true :=
        List.any_eq_true.mpr ⟨row, hrow, hopening⟩
      simp [attended, this] at hcond
    refine h.of_rows hinv hinv' hfollows rfl ?_ rfl rfl
    simp only [restart, hnone, List.map_nil, List.append_nil]
  | @call β thread request oracle hleaves hneeds hcond =>
    cases request with
    | gate rule message =>
      rcases gate_cases deployment thread rule message oracle world with hsame | ⟨-, hpassed⟩
      · rw [hsame]
        exact h
      · rw [hpassed]
        exact ⟨h.strayed, h.waiting⟩
    | sendEvent message =>
      simp only [performCall, World.sendEvent]
      split
      · exact ⟨h.strayed, h.waiting⟩
      · exact ⟨h.strayed, h.waiting⟩
    | record dispute now =>
      revert hinv' hfollows
      simp only [performCall, World.orFail]
      split
      · exact fun _ _ => h
      · next hfails =>
        intro hinv' hfollows
        refine h.records hinv ?_ hinv' hfollows
        simpa [attended, hfails] using hcond
    | openChat id =>
      -- A chat that fails to open leaves its session behind only if that is opening no more.
      have hover : (oracle.fails.isNone && oracle.breaks.isNone) = false →
          world.openedBy[id]? = some thread.number → world.isOpening id = false := by
        intro hfailed hopened
        simpa [attended, hfailed, hopened] using hcond
      simp only [performCall, World.openChat]
      split
      · next hfails => exact h.strays hinv (hover (by simp [hfails]))
      · next hfails hbreaks =>
        refine World.Attended.strays ?_ ?_ (hover (by simp [hbreaks]))
        · exact ⟨h.strayed, h.waiting⟩
        · exact hinv
      · exact ⟨h.strayed, h.waiting⟩
    | activate dispute id now =>
      revert hinv' hfollows
      simp only [performCall]
      split
      · next hfails =>
        -- The write may fail only once the session is opening no more.
        refine fun _ _ => h.strays hinv fun _ => ?_
        simpa [attended, hfails] using hcond
      · exact fun hinv' hfollows => h.activates hinv hinv' hfollows
    | abandon dispute id reason now =>
      revert hinv' hfollows
      simp only [performCall]
      split
      · next hfails =>
        intro _ _
        cases id with
        | none => exact h
        | some id =>
          refine h.strays hinv fun _ => ?_
          simpa [attended, hfails] using hcond
      · exact fun hinv' hfollows => h.abandons hinv hinv' hfollows
    | insertSession id info order now =>
      rcases insertSession_cases deployment thread id info order now oracle world with hsame |
        ⟨hfails, hlive, hinserted⟩
      · rw [hsame]
        exact h
      · have hstepped := Stepped.withSession hinv
          (openingSession world.store world.clock id info order now).row thread.number rfl rfl rfl
            hneeds hlive
        rcases hinserted with ⟨-, hlater⟩ | ⟨hbreaks, -⟩
        · rw [hlater]
          exact h.inserts thread.number rfl hstepped.follows
        -- A session whose insertion then fails is what the condition excludes.
        · obtain ⟨failure, hfailure⟩ := Option.ne_none_iff_exists'.mp hbreaks
          simp [attended, hfails, hlive, hfailure] at hcond
    | _ => cases hleaves

end World.Attended

/-- A session that waited and ended was not resolved by its parties. -/
theorem Waiting.outcome_ne {core : Core} (hinv : core.Inv) {session : Session}
    (h : Waiting core session) (hstate : session.state ≠ .opening) {byParties : Bool}
    (hby : core.ResolvedBy session.disputeId byParties) :
    outcome session byParties ≠ .selfResolved := by
  cases h with
  | opening hopening => exact absurd hopening hstate
  | handedOff _ hreason =>
    rw [outcome, hreason]
    exact nofun
  | superseded hsuperseded =>
    rw [outcome]
    split
    · exact nofun
    · rw [hsuperseded]
      exact nofun
  | closed _ hclosed =>
    rw [outcome]
    split
    · exact nofun
    · next hnone =>
      cases byParties with
      | false => simp
      | true => exact absurd (hclosed hnone) (hinv.resolvedBy_unique hby)

/-- From some point on an attended run keeps its invariant, and lets nothing of a session pass that
was closed there and never active. -/
structure AttendedSince (start later : World) : Prop where
  inv : later.core.Inv
  attended : later.Attended
  follows : start.Follows later
  passed : ∃ more, later.passed = start.passed ++ more ∧ ∀ message ∈ more, ∀ session,
    start.store.session message.sessionId = some session → session.state = .closed →
      message.sessionId ∈ later.activated

/-- **Every attended run** keeps its invariant. -/
theorem attendedSince_of_run {start later : World} (hinv : start.core.Inv)
    (hattended : start.Attended)
    (hrun : ReflTransGen (contract deployment attended).Moves start later) :
    AttendedSince start later := by
  refine Contract.Moves.run_induction (AttendedSince start) ?_ hrun
    ⟨hinv, hattended, .refl start, [], by simp, by simp⟩
  rintro mid later ⟨hmid, hmidAttended, hfollows, more, hpassed, hsilent⟩ hmove
  obtain ⟨hlater, hfollows'⟩ := follows_of_moves hmove
  refine ⟨hlater, hmidAttended.of_moves hmid hmove, hfollows.trans hfollows', ?_⟩
  have hactivated := hfollows'.log.activated.subset
  rcases gate_of_moves hmove with hsame |
    ⟨thread, rule, message, found, hadded, hneeds, hfound, hallows, -⟩
  · exact ⟨more, hsame.trans hpassed, fun message hmessage session hsession hclosed =>
      hactivated (hsilent message hmessage session hsession hclosed)⟩
  · refine ⟨more ++ [message], by rw [hadded, hpassed, List.append_assoc], ?_⟩
    intro other hother session hsession hclosed
    rcases List.mem_append.mp hother with hold | hnew
    · exact hactivated (hsilent other hold session hsession hclosed)
    · -- Only the closing thanks pass, and only when the parties resolved the dispute.
      rw [List.mem_singleton.mp hnew] at hsession ⊢
      rw [hinv.session_eq] at hsession
      rw [hmid.session_eq] at hfound
      obtain ⟨row, hrow, hbecomes, -⟩ := hfollows.core.sessions _ session hsession
      rw [hfound, Option.some.injEq] at hrow
      subst hrow
      have hstate : found.state = .closed :=
        (hbecomes.ended (by rw [hclosed]; rfl)).1.trans hclosed
      by_contra hnot
      have hwaiting := hmidAttended.waiting _ found hfound fun hmem => hnot (hactivated hmem)
      rw [hstate] at hallows
      cases rule with
      | live => exact absurd hallows (by decide)
      | mediating => exact absurd hallows (by decide)
      | closed =>
        obtain ⟨-, closing, hclosing, hby, hreason⟩ := hneeds
        rw [hfound, Option.some.injEq] at hclosing
        subst hclosing
        cases hwaiting with
        | opening h => rw [h] at hstate; cases hstate
        | handedOff h _ => rw [h] at hstate; cases hstate
        | superseded h => rw [h] at hstate; cases hstate
        | closed _ h => exact hmid.resolvedBy_unique hby (h (hreason hstate))

/-- Nothing is opening at the start. -/
theorem attended_start (clock : Int) : (World.start clock).Attended :=
  ⟨fun _ hid => absurd hid List.not_mem_nil, fun _ _ hsession _ =>
    absurd (List.mem_of_getElem? hsession) List.not_mem_nil⟩

/-- **No opening leaves a session stuck.** In every state an attended run reaches: once no opening of
its dispute is under way a session is not opening, and one that never became active was handed off
as a failed opening, superseded or closed, and not as resolved by its parties; from then on the
parties get no thanks for it. -/
theorem opening_settles {clock : Int} {conf : Conf Call String Task World}
    (hrun : (machine deployment).RunsTo attended (Serbero.start clock) conf) :
    (∀ session ∈ conf.world.store.sessions,
      (∀ take ∈ conf.world.ownTakes, take.1 ≠ session.disputeId) →
        session.state ≠ .opening ∧ (session.sessionId ∉ conf.world.activated →
          (session.state = .handedOff ∧ session.handoffReason = some .openingFailed ∨
            session.state = .superseded ∨ session.state = .closed) ∧
          ∀ row ∈ conf.world.store.disputes, row.disputeId = session.disputeId →
            row.lifecycle = .resolved →
              outcome session row.status.resolvedByParties ≠ .selfResolved)) ∧
    ∀ conf', (machine deployment).RunsTo attended conf conf' →
      ∃ more, conf'.world.passed = conf.world.passed ++ more ∧ ∀ message ∈ more, ∀ session,
        conf.world.store.session message.sessionId = some session → session.state = .closed →
          message.sessionId ∈ conf'.world.activated := by
  have hstart : (contract deployment attended).Kept (Serbero.start clock) :=
    Contract.kept_of_start (inv_start clock)
  obtain ⟨hkept, hmoves⟩ := hstart.run (launches deployment attended) hrun
  have hattended := (attendedSince_of_run (inv_start clock) (attended_start clock) hmoves).attended
  refine ⟨fun session hsession hover => ?_, fun conf' hlater =>
    (attendedSince_of_run hkept.1 hattended
      (hkept.run (launches deployment attended) hlater).2).passed⟩
  have hplace := hkept.1.getElem?_of_mem hsession
  have hstate : session.state ≠ .opening := by
    intro hopening
    by_cases hstrayed : session.sessionId ∈ conf.world.core.strayed
    · obtain ⟨found, hfound, hnot⟩ := hattended.strayed _ hstrayed
      rw [hplace, Option.some.injEq] at hfound
      exact hnot (hfound ▸ hopening)
    · -- Its opener still holds the take.
      obtain ⟨thread, -, htake⟩ := hkept.1.held _ session hplace hopening hstrayed
      exact hover _ htake rfl
  refine ⟨hstate, fun hnot => ?_⟩
  have hwaiting := hattended.waiting _ session hplace hnot
  constructor
  · cases hwaiting with
    | opening h => exact absurd h hstate
    | handedOff h hreason => exact Or.inl ⟨h, hreason⟩
    | superseded h => exact Or.inr (Or.inl h)
    | closed h _ => exact Or.inr (Or.inr h)
  · exact fun row hrow hid hresolved =>
      hwaiting.outcome_ne hkept.1 hstate ⟨row, hrow, hid, hresolved, rfl⟩

/-- The opening of the closed session was settled. -/
theorem opening_settles_closed :
    let closedConf := (machine smallDeployment).after attended (Serbero.start 1000)
      (openedSteps ++ closedSteps)
    (∀ session ∈ closedConf.world.store.sessions,
      (∀ take ∈ closedConf.world.ownTakes, take.1 ≠ session.disputeId) →
        session.state ≠ .opening ∧ (session.sessionId ∉ closedConf.world.activated →
          (session.state = .handedOff ∧ session.handoffReason = some .openingFailed ∨
            session.state = .superseded ∨ session.state = .closed) ∧
          ∀ row ∈ closedConf.world.store.disputes, row.disputeId = session.disputeId →
            row.lifecycle = .resolved →
              outcome session row.status.resolvedByParties ≠ .selfResolved)) ∧
    ∀ conf', (machine smallDeployment).RunsTo attended closedConf conf' →
      ∃ more, conf'.world.passed = closedConf.world.passed ++ more ∧
        ∀ message ∈ more, ∀ session,
          closedConf.world.store.session message.sessionId = some session →
            session.state = .closed → message.sessionId ∈ conf'.world.activated :=
  opening_settles ((machine smallDeployment).runsTo_after (by decide +kernel))

/-- The channels of a session cannot be opened, and a timer tick runs once the opening is over. -/
def strayedSteps : List (Choice Task Oracle Happening) :=
  takenSteps ++ quietly 2 2 ++ [.run 2 { Oracle.quiet with fails := some "no relay" }] ++
    quietly 2 5 ++ [.launch .tick .quiet] ++ quietly 3 5

/-- The session whose channels could not be opened stays in opening. -/
theorem not_opening_settles :
    ¬∀ conf, (machine smallDeployment).RunsTo Condition.always (Serbero.start 1000) conf →
      ∀ session ∈ conf.world.store.sessions,
        (∀ take ∈ conf.world.ownTakes, take.1 ≠ session.disputeId) → session.state ≠ .opening := by
  intro h
  have hsettled := h ((machine smallDeployment).after Condition.always (Serbero.start 1000)
    strayedSteps) ((machine smallDeployment).runsTo_after (by decide +kernel))
  revert hsettled
  decide +kernel

end Serbero
