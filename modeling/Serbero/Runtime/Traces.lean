import Serbero.Runtime.Lifecycle

/-! # What a step leaves behind

The records of openings, revisions and party messages, which calls write them, and that every other
step leaves them, the openings and the resolutions alone. -/

namespace Serbero

open Pool Relation

variable {deployment : Deployment} {condition : Condition Call Task Oracle Happening World}

/-- The records of openings, revisions and party messages. -/
structure Traces where
  passed : List Passed
  sending : List (Nat × Passed)
  sent : List Passed
  recorded : List DisputeEvent
  activated : List SessionId
  openedBy : List Nat
  insertedAt : List Nat
  strayed : List SessionId

/-- The traces of a world. -/
def World.traces (world : World) : Traces :=
  { passed := world.passed
    sending := world.sending
    sent := world.sent
    recorded := world.recorded
    activated := world.activated
    openedBy := world.openedBy
    insertedAt := world.insertedAt
    strayed := world.strayed }

/-- The call may leave a trace, end an opening or resolve a dispute. -/
def Call.leavesTrace {β : Type} : Call β → Bool
  | .gate _ _ | .sendEvent _ | .record _ _ => true
  | .insertSession _ _ _ _ | .openChat _ | .activate _ _ _ | .abandon _ _ _ _ => true
  | _ => false

/-- The call stores a revision. -/
def Call.isRecord {β : Type} : Call β → Bool
  | .record _ _ => true
  | _ => false

/-- A step that leaves no trace, ends no opening and no session, and resolves no dispute. -/
structure Quiet (world later : World) : Prop where
  traces : later.traces = world.traces
  resolved : ∀ id, later.core.Resolved id → world.core.Resolved id
  openings : ∀ (id : SessionId) session found, world.core.sessions[id]? = some session →
    later.core.sessions[id]? = some found → session.state = .opening → found.state = .opening
  live : ∀ (id : SessionId) session found, world.core.sessions[id]? = some session →
    later.core.sessions[id]? = some found → session.isLive = true → found.isLive = true

namespace Quiet

variable {world later : World}

/-- A step that leaves the rows of sessions and disputes alone. -/
theorem of_rows (htraces : later.traces = world.traces)
    (hsessions : later.store.sessions = world.store.sessions)
    (hdisputes : later.store.disputes = world.store.disputes) : Quiet world later where
  traces := htraces
  resolved id := by
    rintro ⟨row, hrow, hresolved⟩
    exact ⟨row, show row ∈ world.store.disputes from hdisputes ▸ hrow, hresolved⟩
  openings id session found hsession hfound hopening := by
    change later.store.sessions[id]? = _ at hfound
    rw [hsessions] at hfound
    rw [show world.store.sessions[id]? = _ from hsession, Option.some.injEq] at hfound
    exact hfound ▸ hopening
  live id session found hsession hfound hlive := by
    change later.store.sessions[id]? = _ at hfound
    rw [hsessions] at hfound
    rw [show world.store.sessions[id]? = _ from hsession, Option.some.injEq] at hfound
    exact hfound ▸ hlive

/-- Nothing happened. -/
theorem refl (world : World) : Quiet world world := of_rows rfl rfl rfl

/-- An update of rows of sessions that leaves the opening ones opening and the live ones live. -/
theorem of_update (htraces : later.traces = world.traces) {picked : Session → Bool}
    {change : Session → Session}
    (hsessions : later.store.sessions = (world.store.updateSessions picked change).sessions)
    (hdisputes : later.store.disputes = world.store.disputes)
    (hchange : ∀ row ∈ world.store.sessions, picked row = true → row.state = .opening →
      (change row).state = .opening)
    (hlive : ∀ row : Session, row.isLive = true → (change row).isLive = true) :
    Quiet world later where
  traces := htraces
  resolved id := by
    rintro ⟨row, hrow, hresolved⟩
    exact ⟨row, show row ∈ world.store.disputes from hdisputes ▸ hrow, hresolved⟩
  openings id session found hsession hfound hopening := by
    change later.store.sessions[id]? = _ at hfound
    rw [hsessions, Store.updateSessions, List.getElem?_map,
      show world.store.sessions[id]? = _ from hsession, Option.map_some,
      Option.some.injEq] at hfound
    rw [← hfound]
    split
    · next hpicked => exact hchange session (List.mem_of_getElem? hsession) hpicked hopening
    · exact hopening
  live id session found hsession hfound hbefore := by
    change later.store.sessions[id]? = _ at hfound
    rw [hsessions, Store.updateSessions, List.getElem?_map,
      show world.store.sessions[id]? = _ from hsession, Option.map_some,
      Option.some.injEq] at hfound
    rw [← hfound]
    split
    · exact hlive session hbefore
    · exact hbefore

end Quiet

/-- Every other call is quiet. -/
theorem performCall_quiet (deployment : Deployment) {β : Type} (thread : Thread Task)
    (call : Call β) (hcall : call.leavesTrace = false) (oracle : Oracle) {world : World}
    (h : world.core.Inv) (hneeds : Needs thread call world) :
    Quiet world (performCall deployment thread call oracle world).2 := by
  have hmakes := performCall_makes deployment thread call oracle world
  generalize (performCall deployment thread call oracle world).2 = later at hmakes ⊢
  cases hmakes with
  | same => exact .refl world
  | handOff hclaim =>
    obtain ⟨-, hsessions, hdisputes, -⟩ := Stepped.claimHandOff_spec hclaim
    refine .of_update rfl hsessions hdisputes (fun row hrow hpicked hopening => ?_) fun _ _ => rfl
    -- A session known to have been active is not opening.
    obtain ⟨known, hknown, hstage, -⟩ := hneeds
    rw [Bool.and_eq_true, beq_iff_eq] at hpicked
    rw [← h.row_eq hknown hrow hpicked.1, hopening] at hstage
    exact absurd hstage (by decide)
  | startGuiding hclaim =>
    obtain ⟨-, hsessions, hdisputes, -⟩ := Stepped.claimGuiding_spec hclaim
    refine .of_update rfl hsessions hdisputes (fun row _ hpicked hopening => ?_) fun _ _ => rfl
    rw [hopening, Bool.and_eq_true] at hpicked
    exact absurd hpicked.2 (by decide)
  | @setLanguage id party lang now =>
    refine .of_update rfl rfl rfl (fun row _ _ hopening => ?_) fun row hlive => ?_
    · cases party <;> exact hopening
    · cases party <;> exact hlive
  | countRound =>
    exact .of_update rfl rfl rfl (fun row _ _ hopening => hopening) fun row hlive => hlive
  | markNotified =>
    refine
      { traces := rfl
        resolved := fun found hresolved => ?_
        openings := (Quiet.refl world).openings
        live := (Quiet.refl world).live }
    obtain ⟨row, hrow, hid, hlifecycle⟩ := hresolved
    obtain ⟨before, hbefore, rfl⟩ := List.mem_map.mp hrow
    split at hlifecycle
    · cases hlifecycle
    · next hpicked =>
      rw [if_neg hpicked] at hid
      exact ⟨before, hbefore, hid, hlifecycle⟩
  | _ => first | exact .of_rows rfl rfl rfl | cases hcall

/-- The start of a task says nothing. -/
theorem launch_quiet {thread : Thread Task} {world later : World}
    (h : launch thread world = some later) : Quiet world later := by
  unfold launch at h
  repeat' split at h
  all_goals cases h
  all_goals exact .of_rows rfl rfl rfl

/-- Nor does what happens outside the tasks. -/
theorem happen_quiet {happening : Happening} {world later : World}
    (h : happen deployment happening world = some later) : Quiet world later := by
  cases happens_of_happen h with
  | _ => exact .of_rows rfl rfl rfl

/-- What inserting a session does: nothing, or the session of a dispute without a live one is there,
and maybe left. -/
theorem insertSession_cases (deployment : Deployment) (thread : Thread Task) (id : DisputeId)
    (info : SolverDisputeInfo) (order : OrderEvent) (now : Int) (oracle : Oracle) (world : World) :
    let row := (openingSession world.store world.clock id info order now).row
    let later := (performCall deployment thread (.insertSession id info order now) oracle world).2
    later = world ∨ oracle.fails = none ∧ world.store.liveForDispute id = none ∧
      ((oracle.breaks = none ∧ later = world.withSession thread.number row) ∨
        (oracle.breaks ≠ none ∧
          later = (world.withSession thread.number row).stray thread.number row.sessionId)) := by
  simp only [performCall, World.orFail]
  split
  · exact Or.inl rfl
  · next hfails =>
    unfold World.openSession
    simp only []
    split
    · exact Or.inl rfl
    · exact Or.inl rfl
    · next store hinsert =>
      unfold Store.insertSession at hinsert
      split at hinsert
      · cases hinsert
      · split at hinsert
        · cases hinsert
        · next hlive =>
          cases hinsert
          refine Or.inr ⟨hfails, Option.not_isSome_iff_eq_none.mp hlive, ?_⟩
          split
          · next hbreaks => exact Or.inr ⟨by rw [hbreaks]; simp, rfl⟩
          · next hbreaks => exact Or.inl ⟨hbreaks, rfl⟩

/-- Leaving an opening leaves the store alone, and inserts no session. -/
@[simp] theorem stray_store (world : World) (number : Nat) (id : SessionId) :
    (world.stray number id).store = world.store := by
  unfold World.stray
  split <;> rfl

/-- Only a revision ends a session. -/
theorem performCall_live (deployment : Deployment) {β : Type} (thread : Thread Task)
    (call : Call β) (hcall : call.isRecord = false) (oracle : Oracle) {world : World}
    (h : world.core.Inv) (hneeds : Needs thread call world) {id : SessionId}
    {session found : Session} (hsession : world.core.sessions[id]? = some session)
    (hfound : (performCall deployment thread call oracle world).2.core.sessions[id]? = some found)
    (hlive : session.isLive = true) : found.isLive = true := by
  by_cases hleaves : call.leavesTrace = true
  · have hwrites := performCall_writes deployment thread call oracle world
    change (performCall deployment thread call oracle world).2.store.sessions[id]? = _ at hfound
    generalize (performCall deployment thread call oracle world).2.store = store at hwrites hfound
    change world.store.sessions[id]? = some session at hsession
    -- Where the rows stay, or one is set to a state that is live.
    have same : store.sessions = world.store.sessions → found.isLive = true := by
      intro heq
      rw [heq, hsession, Option.some.injEq] at hfound
      exact hfound ▸ hlive
    have set : ∀ {picked : Session → Bool} (change : Session → Session),
        (∀ row : Session, (change row).isLive = true) →
          store.sessions = (world.store.updateSessions picked change).sessions →
            found.isLive = true := by
      intro picked change hchange heq
      rw [heq, Store.updateSessions, List.getElem?_map, hsession, Option.map_some,
        Option.some.injEq] at hfound
      rw [← hfound]
      split
      · exact hchange session
      · exact hlive
    cases hwrites with
    | insertSession hid =>
      rw [List.getElem?_append_left (List.getElem?_eq_some_iff.mp hsession).1, hsession,
        Option.some.injEq] at hfound
      exact hfound ▸ hlive
    | @activate dispute about now =>
      exact set (fun row => { row with state := .active, updatedAt := now }) (fun _ => rfl)
        (Store.queueForObservers_sessions (world.store.setState about .active now) _ _ _ _)
    | @abandon dispute about reason now =>
      have hspec := Stepped.abandonOpening_spec world.store deployment.observers dispute about
        reason now
      cases about with
      | none => exact same hspec.1
      | some about =>
        exact set (fun row => { row with
          state := .handedOff, handoffReason := some .openingFailed, updatedAt := now })
          (fun _ => rfl) hspec.1
    | record => cases hcall
    | _ => first | exact same rfl | cases hleaves
  · have hquiet := performCall_quiet deployment thread call (by simpa using hleaves) oracle h hneeds
    exact hquiet.live id session found hsession hfound hlive

/-- The call logs this claim. -/
def Call.logsClaim {β : Type} : Call β → SessionId × Claimer → Prop
  | .handOff session reason _, claim => ∃ last, claim = (session.sessionId, .handOff reason last)
  | .abandon _ (some id) _ _, claim => claim = (id, .abandon)
  | _, _ => False

/-- A call logs no claim, or its own. -/
theorem performCall_claims_cases (deployment : Deployment) {β : Type} (thread : Thread Task)
    (call : Call β) (oracle : Oracle) (world : World) :
    (performCall deployment thread call oracle world).2.claims = world.claims ∨
      ∃ claim, (performCall deployment thread call oracle world).2.claims =
        world.claims ++ [claim] ∧ call.logsClaim claim := by
  have hmakes := performCall_makes deployment thread call oracle world
  generalize (performCall deployment thread call oracle world).2 = later at hmakes ⊢
  cases hmakes with
  | handOff => exact Or.inr ⟨_, rfl, _, rfl⟩
  | @abandon dispute id reason now =>
    cases id with
    | none => exact Or.inl rfl
    | some id =>
      simp only [World.abandon]
      split
      · exact Or.inr ⟨_, rfl, rfl⟩
      · exact Or.inl rfl
  | _ => exact Or.inl rfl

/-- The call may claim a session for a hand-off. -/
def Call.isClaim {β : Type} : Call β → Bool
  | .handOff _ _ _ | .abandon _ _ _ _ => true
  | _ => false

/-- Nothing else claims a session. -/
theorem performCall_claims (deployment : Deployment) {β : Type} (thread : Thread Task)
    (call : Call β) (hcall : call.isClaim = false) (oracle : Oracle) (world : World) :
    (performCall deployment thread call oracle world).2.claims = world.claims := by
  rcases performCall_claims_cases deployment thread call oracle world with hsame | ⟨claim, -, hlogs⟩
  · exact hsame
  · cases call with
    | handOff session reason now => cases hcall
    | abandon dispute id reason now => cases hcall
    | _ => cases hlogs

/-- A session has another reason only when it is claimed. -/
theorem reason_of_claims {world later : World} (h : world.core.Inv) (h' : later.core.Inv)
    (hfollows : world.Follows later) {id : SessionId} {session found : Session}
    (hsession : world.core.sessions[id]? = some session)
    (hfound : later.core.sessions[id]? = some found)
    (hclaims : ∀ claim ∈ later.claims, claim.1 = id → claim ∈ world.claims) :
    found.handoffReason = session.handoffReason := by
  obtain ⟨row, hrow, hbecomes, -⟩ := hfollows.core.sessions id session hsession
  rw [hfound, Option.some.injEq] at hrow
  subst hrow
  cases hreason : found.handoffReason with
  | none =>
    cases hbefore : session.handoffReason with
    | none => rfl
    | some reason =>
      rw [hbecomes.reason reason hbefore] at hreason
      cases hreason
  | some reason =>
    -- The claim that the session has by then is one it had before.
    have hone := (h'.documented found (List.mem_of_getElem? hfound)).claimed (by rw [hreason]; nofun)
    rw [h'.numbered id found hfound] at hone
    obtain ⟨claim, hclaim, hid⟩ := List.countP_pos_iff.mp (hone ▸ Nat.one_pos)
    have hid : claim.1 = id := by simpa using hid
    have hlogged := h.logged claim (hclaims claim hclaim hid)
    obtain ⟨before, hbefore, hsame, hsome⟩ : ∃ before ∈ world.core.sessions,
        before.sessionId = claim.1 ∧ before.handoffReason ≠ none := by
      unfold Logged at hlogged
      split at hlogged
      · obtain ⟨-, -, -, -, before, hbefore, hsame, hreason⟩ := hlogged
        exact ⟨before, hbefore, hsame, by rw [hreason]; nofun⟩
      · obtain ⟨-, -, before, hbefore, hsame, hreason⟩ := hlogged
        exact ⟨before, hbefore, hsame, by rw [hreason]; nofun⟩
    rw [h.row_eq hsession hbefore (hsame.trans hid)] at hsome
    obtain ⟨first, hfirst⟩ := Option.ne_none_iff_exists'.mp hsome
    rw [hfirst, ← hreason]
    exact hbecomes.reason first hfirst

/-- What a step may be: quiet, a call that leaves a trace, made with what it needs, or a
restart. -/
inductive Effect (deployment : Deployment) (condition : Condition Call Task Oracle Happening World)
    (world : World) : World → Prop
  | quiet {later : World} (h : Quiet world later) : Effect deployment condition world later
  | call {β : Type} {thread : Thread Task} {request : Call β} {oracle : Oracle}
      (hleaves : request.leavesTrace = true) (hneeds : Needs thread request world)
      (hcond : condition.call thread request oracle world = true) :
      Effect deployment condition world (performCall deployment thread request oracle world).2
  | restart {oracle : Oracle} (hcond : condition.restart oracle world = true) :
      Effect deployment condition world (restart oracle world)

/-- Every move has one of these effects. -/
theorem effect_of_moves {world later : World}
    (h : (contract deployment condition).Moves world later) :
    Effect deployment condition world later := by
  cases h with
  | @call β thread request oracle _ hinv hpre hcond _ =>
    by_cases hleaves : request.leavesTrace = true
    · exact .call hleaves hpre hcond
    · exact .quiet (performCall_quiet deployment thread request (by simpa using hleaves) oracle
        hinv hpre)
  | launch _ _ hlaunch => exact .quiet (launch_quiet hlaunch)
  | happen _ _ hhappen => exact .quiet (happen_quiet hhappen)
  | restart _ hcond => exact .restart hcond

/-- A session of a later world is one of the earlier world, moved forward, when none was inserted. -/
theorem exists_before {world later : World} (h : world.core.Inv) (h' : later.core.Inv)
    (hfollows : world.Follows later) (hopened : later.openedBy = world.openedBy)
    {id : SessionId} {found : Session} (hfound : later.core.sessions[id]? = some found) :
    ∃ session, world.core.sessions[id]? = some session ∧ session.Becomes found := by
  have hlength : later.core.sessions.length = world.core.sessions.length := by
    rw [← h'.openers, ← h.openers]
    exact congrArg List.length hopened
  have hlt : id < world.core.sessions.length :=
    hlength ▸ (List.getElem?_eq_some_iff.mp hfound).1
  obtain ⟨row, hrow, hbecomes, -⟩ :=
    hfollows.core.sessions id _ (List.getElem?_eq_getElem hlt)
  rw [hfound, Option.some.injEq] at hrow
  exact ⟨_, List.getElem?_eq_getElem hlt, hrow ▸ hbecomes⟩

end Serbero
