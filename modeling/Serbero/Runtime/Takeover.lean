import Serbero.Runtime.Resolution

/-! # Takeovers

Another solver's take ends the session that is live when it is recorded, if it is newer than the
session's opening in whole seconds. What a takeover silences is a session that was there when the
takeover was recorded, and that such a comparison told apart. -/

namespace Serbero

open Pool Relation

variable {deployment : Deployment}

namespace World

/-- The takes of Serbero's own that the node published for a dispute, up to a place. -/
def takesBefore (world : World) (id : DisputeId) (place : Nat) : List DisputeEvent :=
  world.published.filter fun event =>
    event.own && event.disputeId == id && decide (event.number < place)

/-- The revision is another solver's take: in progress, caused by none of Serbero's own takes up to
a place, and published after them. -/
def isTakeover (world : World) (event : DisputeEvent) (place : Nat) : Bool :=
  let takes := world.takesBefore event.disputeId place
  event.status == .inProgress && !event.own && !takes.isEmpty &&
    takes.all fun take => decide (take.number < event.number)

/-- The revision takes over a session from Serbero: it was published after the own take that the
session came from. -/
def takesOver (world : World) (event : DisputeEvent) (id : SessionId) : Bool :=
  (world.store.session id).any (fun session => session.disputeId == event.disputeId) &&
    world.insertedAt[id]?.any fun place => world.isTakeover event place

end World

/-- No session is inserted once a takeover of its dispute was recorded, and a takeover is newer than
the opening of the session it is recorded for. -/
def noticed : Condition Call Task Oracle Happening World where
  call _ request oracle world :=
    match request with
    | .insertSession id _ _ _ =>
      oracle.fails.isSome || !world.recorded.any fun event =>
        event.disputeId == id && world.isTakeover event world.published.length
    | .record dispute _ =>
      oracle.fails.isSome ||
        !((world.store.dispute dispute.disputeId).any fun row =>
          decide (row.statusAt < dispute.revisionAt)) ||
        !(world.store.liveForDispute dispute.disputeId).any fun session =>
          world.takesOver dispute session.sessionId &&
            decide (dispute.revisionAt ≤ session.openedAt)
    | _ => true
  launch _ _ _ := true
  happen _ _ := true
  restart _ _ := true

/-- Takes before a place that was published already do not change. -/
theorem takesBefore_eq {world later : World} (hinv' : later.core.Inv)
    (hfollows : world.Follows later) (id : DisputeId) {place : Nat}
    (hplace : place ≤ world.published.length) :
    later.takesBefore id place = world.takesBefore id place := by
  obtain ⟨more, hmore⟩ := hfollows.core.published
  change world.published ++ more = later.published at hmore
  have hnone : (more.filter fun event =>
      event.own && event.disputeId == id && decide (event.number < place)) = [] := by
    rw [List.filter_eq_nil_iff]
    intro event hevent hpicked
    obtain ⟨i, hi⟩ := List.mem_iff_getElem?.mp hevent
    -- What was published since is counted from there on.
    have hnumber : event.number = world.published.length + i := by
      refine hinv'.counted _ event ?_
      change later.published[world.published.length + i]? = some event
      rw [← hmore, List.getElem?_append_right (Nat.le_add_right _ _), Nat.add_sub_cancel_left]
      exact hi
    rw [Bool.and_eq_true, decide_eq_true_eq] at hpicked
    omega
  rw [World.takesBefore, World.takesBefore, ← hmore, List.filter_append, hnone, List.append_nil]

/-- Whether a revision took a dispute over rests on what was published before it. -/
theorem isTakeover_eq {world later : World} (hinv' : later.core.Inv)
    (hfollows : world.Follows later) (event : DisputeEvent) {place : Nat}
    (hplace : place ≤ world.published.length) :
    later.isTakeover event place = world.isTakeover event place := by
  rw [World.isTakeover, World.isTakeover, takesBefore_eq hinv' hfollows _ hplace]

/-- A session that ended and is not closed was superseded. -/
theorem superseded_of_terminal {state : SessionState} (hterminal : state.isTerminal = true)
    (hclosed : state ≠ .closed) : state = .superseded := by
  cases state <;> first | rfl | exact absurd rfl hclosed | exact absurd hterminal (by decide)

/-- A takeover of a session that was recorded has ended it. -/
structure World.Silenced (world : World) : Prop where
  superseded : ∀ event ∈ world.recorded, ∀ (id : SessionId) session,
    world.core.sessions[id]? = some session → world.takesOver event id = true →
      session.state = .superseded
  inserted : world.insertedAt.length = world.core.sessions.length
  places : ∀ place ∈ world.insertedAt, place ≤ world.published.length

namespace World.Silenced

variable {world later : World} {thread : Thread Task}

/-- What takes over a session does not change once the session is there. -/
theorem takesOver_eq (h : world.Silenced) (hinv : world.core.Inv) (hinv' : later.core.Inv)
    (hfollows : world.Follows later) (event : DisputeEvent) {id : SessionId}
    (hid : id < world.core.sessions.length) :
    later.takesOver event id = world.takesOver event id := by
  have hsession := List.getElem?_eq_getElem hid
  obtain ⟨found, hfound, hbecomes, -⟩ := hfollows.core.sessions id _ hsession
  have hlt : id < world.insertedAt.length := h.inserted ▸ hid
  have hplace : later.insertedAt[id]? = world.insertedAt[id]? := by
    obtain ⟨more, hmore⟩ := hfollows.log.insertedAt
    change world.insertedAt ++ more = later.insertedAt at hmore
    rw [← hmore, List.getElem?_append_left hlt]
  rw [World.takesOver, World.takesOver, hinv.session_eq, hinv'.session_eq, hsession, hfound, hplace,
    List.getElem?_eq_getElem hlt]
  simp only [Option.any_some]
  rw [hbecomes.disputeId, isTakeover_eq hinv' hfollows event
    (h.places _ (List.getElem_mem hlt))]

/-- Nothing is inserted or recorded: the rows only move forward. -/
theorem advance (h : world.Silenced) (hinv : world.core.Inv) (hinv' : later.core.Inv)
    (hfollows : world.Follows later) (hopened : later.openedBy = world.openedBy)
    (hinserted : later.insertedAt = world.insertedAt)
    (hrecorded : later.recorded = world.recorded) : later.Silenced where
  superseded event hevent id found hfound htakes := by
    rw [hrecorded] at hevent
    obtain ⟨session, hsession, hbecomes⟩ := exists_before hinv hinv' hfollows hopened hfound
    rw [h.takesOver_eq hinv hinv' hfollows event (List.getElem?_eq_some_iff.mp hsession).1]
      at htakes
    have hstate := h.superseded event hevent id session hsession htakes
    rw [(hbecomes.ended (by rw [hstate]; rfl)).1]
    exact hstate
  inserted := by
    rw [hinserted, h.inserted, ← hinv'.openers, ← hinv.openers]
    exact (congrArg List.length hopened).symm
  places place hmem := by
    rw [hinserted] at hmem
    exact (h.places place hmem).trans hfollows.core.published.length_le

/-- Inserting the session of a dispute that no takeover was recorded for. -/
theorem inserts (h : world.Silenced) (hinv : world.core.Inv) (opener : Nat) {row : Session}
    (hinv' : (world.withSession opener row).core.Inv)
    (hfollows : world.Follows (world.withSession opener row))
    (hnone : ∀ event ∈ world.recorded, event.disputeId = row.disputeId →
      world.isTakeover event world.published.length = false) :
    (world.withSession opener row).Silenced where
  superseded event hevent id found hfound htakes := by
    rcases Nat.lt_or_ge id world.core.sessions.length with hlt | hge
    · rw [h.takesOver_eq hinv hinv' hfollows event hlt] at htakes
      change (world.core.sessions ++ [row])[id]? = some found at hfound
      rw [List.getElem?_append_left hlt] at hfound
      exact h.superseded event hevent id found hfound htakes
    · -- The new session: a takeover of it would have been recorded before.
      have hlast : id = world.core.sessions.length := by
        have hlt := (List.getElem?_eq_some_iff.mp hfound).1
        change id < (world.core.sessions ++ [row]).length at hlt
        rw [List.length_append, List.length_singleton] at hlt
        exact Nat.le_antisymm (Nat.lt_succ_iff.mp hlt) hge
      have hplace : (world.withSession opener row).insertedAt[id]? =
          some world.published.length := by
        change (world.insertedAt ++ [world.published.length])[id]? = _
        rw [hlast, ← h.inserted, List.getElem?_concat_length]
      change (world.core.sessions ++ [row])[id]? = some found at hfound
      rw [hlast, List.getElem?_concat_length, Option.some.injEq] at hfound
      rw [World.takesOver, hplace, hinv'.session_eq, show
        (world.withSession opener row).core.sessions[id]? = some row by
          change (world.core.sessions ++ [row])[id]? = _
          rw [hlast, List.getElem?_concat_length], Option.any_some, Option.any_some,
        Bool.and_eq_true, beq_iff_eq] at htakes
      have hnot := hnone event hevent htakes.1.symm
      rw [show (world.withSession opener row).isTakeover event world.published.length =
        world.isTakeover event world.published.length from rfl, hnot] at htakes
      exact absurd htakes.2 (by decide)
  inserted := by
    change (world.insertedAt ++ [world.published.length]).length =
      (world.core.sessions ++ [row]).length
    rw [List.length_append, List.length_append, h.inserted]
    rfl
  places place hmem := by
    rcases List.mem_append.mp hmem with hold | hnew
    · exact h.places place hold
    · rw [List.mem_singleton.mp hnew]
      exact le_rfl

/-- Leaving an opening. -/
theorem strays (h : world.Silenced) (number : Nat) (id : SessionId) :
    (world.stray number id).Silenced := by
  unfold World.stray
  split
  · exact ⟨h.superseded, h.inserted, h.places⟩
  · exact h

/-- Recording a revision that is newer than the opening of the session it takes over. -/
theorem records (h : world.Silenced) (hinv : world.core.Inv) {dispute : DisputeEvent} {now : Int}
    (hneeds : Needs thread (.record dispute now) world)
    (hnewer : (!((world.store.dispute dispute.disputeId).any fun row =>
        decide (row.statusAt < dispute.revisionAt)) ||
      !(world.store.liveForDispute dispute.disputeId).any fun session =>
        world.takesOver dispute session.sessionId &&
          decide (dispute.revisionAt ≤ session.openedAt)) = true)
    (hinv' : ({ world with
      store := (world.store.record dispute now).2
      recorded := if (world.store.record dispute now).1 = .unchanged then world.recorded
        else world.recorded ++ [dispute] } : World).core.Inv)
    (hfollows : world.Follows { world with
      store := (world.store.record dispute now).2
      recorded := if (world.store.record dispute now).1 = .unchanged then world.recorded
        else world.recorded ++ [dispute] }) :
    World.Silenced { world with
      store := (world.store.record dispute now).2
      recorded := if (world.store.record dispute now).1 = .unchanged then world.recorded
        else world.recorded ++ [dispute] } where
  superseded event hevent id found hfound htakes := by
    obtain ⟨session, hsession, hbecomes⟩ := exists_before hinv hinv' hfollows rfl hfound
    rw [h.takesOver_eq hinv hinv' hfollows event (List.getElem?_eq_some_iff.mp hsession).1]
      at htakes
    have stays : ∀ event ∈ world.recorded, world.takesOver event id = true →
        found.state = .superseded := by
      intro event hevent htakes
      have hstate := h.superseded event hevent id session hsession htakes
      rw [(hbecomes.ended (by rw [hstate]; rfl)).1]
      exact hstate
    change event ∈ (if (world.store.record dispute now).1 = .unchanged then world.recorded
      else world.recorded ++ [dispute]) at hevent
    split at hevent
    · exact stays event hevent htakes
    · next hchange =>
      rcases List.mem_append.mp hevent with hold | hnew
      · exact stays event hold htakes
      · -- The takeover is recorded now.
        rw [List.mem_singleton.mp hnew] at htakes
        have hdispute : session.disputeId = dispute.disputeId := by
          rw [World.takesOver, hinv.session_eq, hsession, Option.any_some, Bool.and_eq_true,
            beq_iff_eq] at htakes
          exact htakes.1
        have hstatus : dispute.status = .inProgress := by
          rw [World.takesOver, Bool.and_eq_true] at htakes
          obtain ⟨place, -, htakeover⟩ := (Option.any_eq_true _ _).mp htakes.2
          rw [World.isTakeover, Bool.and_eq_true, Bool.and_eq_true, Bool.and_eq_true,
            beq_iff_eq] at htakeover
          exact htakeover.1.1.1
        obtain ⟨-, -, hnone | hsame | hnew⟩ := world.store.record_cases dispute now
        · obtain ⟨row, hrow, hrowId⟩ :=
            List.mem_map.mp (hinv.known session (List.mem_of_getElem? hsession))
          have := List.find?_eq_none.mp hnone.1 row hrow
          rw [hrowId, hdispute] at this
          simp at this
        · obtain ⟨existing, -, -, heq⟩ := hsame
          exact absurd (by rw [heq]) hchange
        · obtain ⟨existing, hexisting, hnewerAt, -, -, -, hended⟩ := hnew
          by_cases hlive : session.isLive = true
          · have hlivePlace : world.store.liveForDispute dispute.disputeId = some session := by
              obtain ⟨live, hfoundLive⟩ : ∃ live,
                  world.store.liveForDispute dispute.disputeId = some live := by
                rw [← Option.isSome_iff_exists, Store.liveForDispute, List.find?_isSome]
                exact ⟨session, List.mem_of_getElem? hsession, by rw [hdispute, hlive]; simp⟩
              obtain ⟨hliveAt, hliveDispute, hliveLive⟩ := hinv.of_liveForDispute rfl hfoundLive
              rw [hfoundLive, (orderly_of_inv hinv).oneLive live (List.mem_of_getElem? hliveAt)
                session (List.mem_of_getElem? hsession) hliveLive hlive
                (hliveDispute.trans hdispute.symm)]
            have hnumber := hinv.numbered id session hsession
            have hopenedAt : session.openedAt < dispute.revisionAt := by
              by_contra hnot
              simp [hexisting, hnewerAt, hlivePlace, hnumber, htakes, Int.not_lt.mp hnot]
                at hnewer
            change (world.store.record dispute now).2.sessions[id]? = some found at hfound
            generalize (world.store.record dispute now).2.sessions = sessions at hended hfound
            cases hended with
            | kept hkept =>
              have := (hkept session hlivePlace).2 hstatus
              omega
            | closed _ hfinal =>
              rw [hstatus] at hfinal
              exact absurd hfinal (by decide)
            | @superseded ended hfoundLive _ _ =>
              rw [hlivePlace, Option.some.injEq] at hfoundLive
              subst hfoundLive
              rw [Store.setState, Store.updateSessions, List.getElem?_map,
                show world.store.sessions[id]? = _ from hsession, Option.map_some,
                if_pos (by rw [hlive]; simp), Option.some.injEq] at hfound
              rw [← hfound]
          · -- A session that ended was superseded before: its dispute is not resolved.
            have hover : session.state.isTerminal = true := by simpa [Session.isLive] using hlive
            have hnotClosed : session.state ≠ .closed := by
              intro hclosed
              have hmem := List.mem_of_find?_eq_some hexisting
              have hid : existing.disputeId = dispute.disputeId := by
                simpa using List.find?_some hexisting
              refine hinv.not_resolved_of_newer hneeds hmem hid hnewerAt ?_
              rw [← hdispute]
              exact hinv.closed session (List.mem_of_getElem? hsession) hclosed
            rw [(hbecomes.ended hover).1]
            exact superseded_of_terminal hover hnotClosed
  inserted := by
    change world.insertedAt.length = (world.store.record dispute now).2.sessions.length
    have hlength : world.openedBy.length = (world.store.record dispute now).2.sessions.length :=
      hinv'.openers
    rw [h.inserted, ← hlength, ← hinv.openers]
    rfl
  places := h.places

/-- **One move** of a run where takeovers are noticed in time. -/
theorem of_moves (h : world.Silenced) (hinv : world.core.Inv)
    (hmove : (contract deployment noticed).Moves world later) : later.Silenced := by
  obtain ⟨hinv', hfollows⟩ := follows_of_moves hmove
  cases effect_of_moves hmove with
  | quiet hquiet =>
    exact h.advance hinv hinv' hfollows (congrArg Traces.openedBy hquiet.traces)
      (congrArg Traces.insertedAt hquiet.traces) (congrArg Traces.recorded hquiet.traces)
  | restart _ => exact h.advance hinv hinv' hfollows rfl rfl rfl
  | @call β thread request oracle hleaves hneeds hcond =>
    cases request with
    | gate rule message =>
      rcases gate_cases deployment thread rule message oracle world with hsame | ⟨-, hpassed⟩
      · rw [hsame]
        exact h
      · rw [hpassed]
        exact ⟨h.superseded, h.inserted, h.places⟩
    | sendEvent message =>
      simp only [performCall, World.sendEvent]
      split
      · exact ⟨h.superseded, h.inserted, h.places⟩
      · exact ⟨h.superseded, h.inserted, h.places⟩
    | record dispute now =>
      revert hinv' hfollows
      simp only [performCall, World.orFail]
      split
      · exact fun _ _ => h
      -- A takeover is recorded before any insertion that the node announced it for.
      · next hfails =>
        intro hinv' hfollows
        refine h.records hinv hneeds ?_ hinv' hfollows
        simpa [noticed, hfails] using hcond
    | openChat id =>
      simp only [performCall, World.openChat]
      split
      · exact h.strays _ _
      · refine World.Silenced.strays ?_ _ _
        exact ⟨h.superseded, h.inserted, h.places⟩
      · exact ⟨h.superseded, h.inserted, h.places⟩
    | activate dispute id now =>
      revert hinv' hfollows
      simp only [performCall]
      split
      · exact fun _ _ => h.strays _ _
      · exact fun hinv' hfollows => h.advance hinv hinv' hfollows rfl rfl rfl
    | abandon dispute id reason now =>
      revert hinv' hfollows
      simp only [performCall]
      split
      · intro _ _
        cases id with
        | none => exact h
        | some id => exact h.strays _ _
      · exact fun hinv' hfollows => h.advance hinv hinv' hfollows rfl rfl rfl
    | insertSession id info order now =>
      rcases insertSession_cases deployment thread id info order now oracle world with hsame |
        ⟨hfails, hlive, hinserted⟩
      · rw [hsame]
        exact h
      · let row := (openingSession world.store world.clock id info order now).row
        have hstepped := Stepped.withSession hinv row thread.number rfl rfl rfl hneeds hlive
        -- No takeover recorded before this insertion is of its dispute.
        have hnone : ∀ event ∈ world.recorded, event.disputeId = row.disputeId →
            world.isTakeover event world.published.length = false := by
          intro event hevent hdispute
          simp only [noticed, hfails, Option.isSome_none, Bool.false_or, Bool.not_eq_true',
            List.any_eq_false] at hcond
          have := hcond event hevent
          rw [hdispute, show row.disputeId = id from rfl, beq_self_eq_true, Bool.true_and] at this
          simpa using this
        have hinserts := h.inserts hinv thread.number hstepped.inv hstepped.follows hnone
        rcases hinserted with ⟨-, hlater⟩ | ⟨-, hlater⟩
        · rw [hlater]
          exact hinserts
        · rw [hlater]
          exact hinserts.strays _ _
    | _ => cases hleaves

end World.Silenced

/-- One move activates nothing, or a live session. -/
theorem activated_of_moves {condition : Condition Call Task Oracle Happening World}
    {world later : World} (hmove : (contract deployment condition).Moves world later) :
    later.activated = world.activated ∨ ∃ id session,
      later.activated = world.activated ++ [id] ∧ world.store.session id = some session ∧
        session.isLive = true := by
  cases effect_of_moves hmove with
  | quiet hquiet => exact Or.inl (congrArg Traces.activated hquiet.traces)
  | restart _ => exact Or.inl rfl
  | @call β thread request oracle hleaves hneeds hcond =>
    have hmakes := performCall_makes deployment thread request oracle world
    generalize (performCall deployment thread request oracle world).2 = later at hmakes ⊢
    cases hmakes with
    | @activate dispute id now =>
      simp only [World.activate]
      split
      · next hany =>
        obtain ⟨session, hsession, hlive⟩ := (Option.any_eq_true _ _).mp hany
        exact Or.inr ⟨id, session, rfl, hsession, hlive⟩
      · exact Or.inl rfl
    | _ => exact Or.inl rfl

/-- No takeover recorded before is one of this session. -/
def World.Untaken (world : World) (recorded : List DisputeEvent) (id : SessionId) : Prop :=
  id < world.core.sessions.length ∧
    ∀ event ∈ recorded, world.takesOver event id = false

/-- What passes the gate and what is activated from some point on: nothing of a session that a
takeover recorded by then took over. -/
structure SilentSince (start later : World) : Prop where
  inv : later.core.Inv
  silenced : later.Silenced
  follows : start.Follows later
  passed : ∃ more, later.passed = start.passed ++ more ∧
    ∀ message ∈ more, later.Untaken start.recorded message.sessionId
  activated : ∃ more, later.activated = start.activated ++ more ∧
    ∀ id ∈ more, later.Untaken start.recorded id

/-- **Every run where takeovers are noticed in time** stays silent. -/
theorem silentSince_of_run {start later : World} (hinv : start.core.Inv)
    (hsilenced : start.Silenced)
    (hrun : ReflTransGen (contract deployment noticed).Moves start later) :
    SilentSince start later := by
  refine Contract.Moves.run_induction (SilentSince start) ?_ hrun
    ⟨hinv, hsilenced, .refl start, ⟨[], by simp, by simp⟩, ⟨[], by simp, by simp⟩⟩
  rintro mid later ⟨hmid, hsilenced, hfollows, ⟨passed, hpassed, hpassedUntaken⟩,
    ⟨activated, hactivated, hactivatedUntaken⟩⟩ hmove
  obtain ⟨hlater, hfollows'⟩ := follows_of_moves hmove
  have keeps : ∀ id, mid.Untaken start.recorded id → later.Untaken start.recorded id := by
    rintro id ⟨hlt, huntaken⟩
    refine ⟨?_, fun event hevent => ?_⟩
    · obtain ⟨found, hfound, -⟩ :=
        hfollows'.core.sessions id _ (List.getElem?_eq_getElem hlt)
      exact (List.getElem?_eq_some_iff.mp hfound).1
    · rw [hsilenced.takesOver_eq hmid hlater hfollows' event hlt]
      exact huntaken event hevent
  -- A session that was taken over is superseded by now.
  have untaken : ∀ id session, mid.store.session id = some session →
      session.state ≠ .superseded → mid.Untaken start.recorded id := by
    intro id session hsession hstate
    rw [hmid.session_eq] at hsession
    refine ⟨(List.getElem?_eq_some_iff.mp hsession).1, fun event hevent => ?_⟩
    by_contra htakes
    exact hstate (hsilenced.superseded event (hfollows.log.recorded.subset hevent) id session
      hsession (by simpa using htakes))
  refine ⟨hlater, hsilenced.of_moves hmid hmove, hfollows.trans hfollows', ?_, ?_⟩
  · rcases passed_of_moves hmid hmove with hsame | ⟨message, session, hadded, hsession, hlawful⟩
    · exact ⟨passed, hsame.trans hpassed, fun message hmessage =>
        keeps _ (hpassedUntaken message hmessage)⟩
    · refine ⟨passed ++ [message], by rw [hadded, hpassed, List.append_assoc], ?_⟩
      intro other hother
      rcases List.mem_append.mp hother with hold | hnew
      · exact keeps _ (hpassedUntaken other hold)
      · rw [List.mem_singleton.mp hnew]
        refine keeps _ (untaken _ session hsession fun hstate => ?_)
        rcases hlawful with ⟨hlive, -⟩ | hmediates | ⟨hclosed, -⟩
        · rw [Session.isLive, hstate] at hlive
          exact absurd hlive (by decide)
        · rw [hstate] at hmediates
          exact absurd hmediates (by decide)
        · rw [hstate] at hclosed
          cases hclosed
  · rcases activated_of_moves hmove with hsame | ⟨id, session, hadded, hsession, hlive⟩
    · exact ⟨activated, hsame.trans hactivated, fun id hid => keeps _ (hactivatedUntaken id hid)⟩
    · refine ⟨activated ++ [id], by rw [hadded, hactivated, List.append_assoc], ?_⟩
      intro other hother
      rcases List.mem_append.mp hother with hold | hnew
      · exact keeps _ (hactivatedUntaken other hold)
      · rw [List.mem_singleton.mp hnew]
        refine keeps _ (untaken _ session hsession fun hstate => ?_)
        rw [Session.isLive, hstate] at hlive
        exact absurd hlive (by decide)

/-- Nothing was taken over at the start. -/
theorem silenced_start (clock : Int) : (World.start clock).Silenced :=
  ⟨fun _ hevent => absurd hevent List.not_mem_nil, rfl, fun _ hplace =>
    absurd hplace List.not_mem_nil⟩

/-- **A takeover silences Serbero.** In a run where takeovers are noticed in time, once a takeover
is recorded no message of the session it took over passes the gate, and the session is not
activated. -/
theorem takeover_silences {clock : Int} {conf conf' : Conf Call String Task World}
    (hrun : (machine deployment).RunsTo noticed (Serbero.start clock) conf)
    (hlater : (machine deployment).RunsTo noticed conf conf') :
    ∃ passed activated, conf'.world.passed = conf.world.passed ++ passed ∧
      conf'.world.activated = conf.world.activated ++ activated ∧
      ∀ event ∈ conf.world.recorded, ∀ id, conf'.world.takesOver event id = true →
        (∀ message ∈ passed, message.sessionId ≠ id) ∧ id ∉ activated := by
  have hstart : (contract deployment noticed).Kept (Serbero.start clock) :=
    Contract.kept_of_start (inv_start clock)
  obtain ⟨hkept, hmoves⟩ := hstart.run (launches deployment noticed) hrun
  have hsilenced := (silentSince_of_run (inv_start clock) (silenced_start clock) hmoves).silenced
  obtain ⟨-, -, -, ⟨passed, hpassed, hpassedUntaken⟩, ⟨activated, hactivated, hactivatedUntaken⟩⟩ :=
    silentSince_of_run hkept.1 hsilenced (hkept.run (launches deployment noticed) hlater).2
  refine ⟨passed, activated, hpassed, hactivated, fun event hevent id htakes => ⟨?_, ?_⟩⟩
  · intro message hmessage hid
    have := (hpassedUntaken message hmessage).2 event hevent
    rw [hid, htakes] at this
    cases this
  · intro hmem
    have := (hactivatedUntaken id hmem).2 event hevent
    rw [htakes] at this
    cases this

/-- Another solver takes the dispute and the notifier hears of it. -/
def takeover : DisputeEvent := ⟨1, .buyer, .inProgress, 1001, 2, false⟩

@[inherit_doc takeover]
def takeoverSteps : List (Choice Task Oracle Happening) :=
  [.happen (.publish takeover), .launch (.handleEvent takeover) .quiet] ++ quietly 3 2

/-- A timer tick, and the retries it makes. -/
def tickSteps : List (Choice Task Oracle Happening) := [.launch .tick .quiet] ++ quietly 4 3

/-- Another solver takes the dispute once its session is open. -/
theorem takeover_silences_opened :
    let takenOver := (machine smallDeployment).after noticed (Serbero.start 1000)
      (openedSteps ++ takeoverSteps)
    let ticked := (machine smallDeployment).after noticed takenOver tickSteps
    ∃ passed activated, ticked.world.passed = takenOver.world.passed ++ passed ∧
      ticked.world.activated = takenOver.world.activated ++ activated ∧
      ∀ event ∈ takenOver.world.recorded, ∀ id, ticked.world.takesOver event id = true →
        (∀ message ∈ passed, message.sessionId ≠ id) ∧ id ∉ activated :=
  takeover_silences ((machine smallDeployment).runsTo_after (by decide +kernel))
    ((machine smallDeployment).runsTo_after (by decide +kernel))

/-- A takeover recorded between the take and the insertion of the session ends nothing: the session
is opened. -/
theorem not_takeover_silences :
    ¬∀ conf conf', (machine smallDeployment).RunsTo Condition.always (Serbero.start 1000) conf →
      (machine smallDeployment).RunsTo Condition.always conf conf' →
        ∃ passed activated, conf'.world.passed = conf.world.passed ++ passed ∧
          conf'.world.activated = conf.world.activated ++ activated ∧
          ∀ event ∈ conf.world.recorded, ∀ id, conf'.world.takesOver event id = true →
            (∀ message ∈ passed, message.sessionId ≠ id) ∧ id ∉ activated := by
  intro h
  let conf := (machine smallDeployment).after Condition.always (Serbero.start 1000)
    (takenSteps ++ takeoverSteps)
  let conf' := (machine smallDeployment).after Condition.always conf (quietly 2 16)
  obtain ⟨passed, activated, -, hactivated, hsilent⟩ := h conf conf'
    ((machine smallDeployment).runsTo_after (by decide +kernel))
    ((machine smallDeployment).runsTo_after (by decide +kernel))
  have hnot := (hsilent takeover (by decide +kernel) 0 (by decide +kernel)).2
  -- The session was activated after the takeover was recorded.
  have hdrop : activated = conf'.world.activated.drop conf.world.activated.length := by
    rw [hactivated, List.drop_left]
  rw [hdrop] at hnot
  revert hnot
  decide +kernel

end Serbero
