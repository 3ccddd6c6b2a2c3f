import Serbero.Runtime.Tasks

/-! # Every task starts safely

Openings, turns, ticks and the notifier's tasks, and from them that every task the daemon spawns
keeps the contract to its end. -/

namespace Serbero

open Pool
open Pool.Program

variable {deployment : Deployment} {condition : Condition Call Task Oracle Happening World}
  {thread : Thread Task} {fact : World → Prop}

/-! ## Openings -/

/-- The thread holds the take of the dispute. -/
def World.Takes (thread : Thread Task) (dispute : DisputeId) (world : World) : Prop :=
  (dispute, thread.number) ∈ world.ownTakes

/-- The thread holds the take of the dispute, and its sessions of the dispute are no longer opening,
but for those it left and the one it opens. -/
structure World.Settling (thread : Thread Task) (dispute : DisputeId) (opens : Option SessionId)
    (world : World) : Prop where
  takes : World.Takes thread dispute world
  opened : ∀ (id : SessionId), world.core.openedBy[id]? = some thread.number →
    ∃ session, world.core.sessions[id]? = some session ∧
      (session.disputeId = dispute → session.state = .opening →
        id ∈ world.core.strayed ∨ opens = some id)

namespace World.Settling

variable {dispute : DisputeId} {opens opens' : Option SessionId} {world world' : World}

/-- When no session is left to open, the take may be released. -/
theorem settled (h : World.Settling thread dispute none world) :
    world.core.Settled thread.number dispute := by
  intro id session hopened hsession hdispute hopening
  obtain ⟨found, hfound, hleft⟩ := h.opened id hopened
  rw [hsession, Option.some.injEq] at hfound
  subst hfound
  rcases hleft hdispute hopening with hstrayed | hnone
  · exact hstrayed
  · cases hnone

/-- As the world evolves, only the session that is being opened has to be looked at. -/
theorem advance (h : World.Settling thread dispute opens world) (hfollows : world.Follows world')
    (hopened : ∀ (id : SessionId), world'.core.openedBy[id]? = some thread.number →
      world.core.openedBy[id]? = some thread.number)
    (htakes : World.Takes thread dispute world')
    (hopens : ∀ id, opens = some id → opens' = some id ∨ id ∈ world'.core.strayed ∨
      ∀ session, world'.core.sessions[id]? = some session → session.state ≠ .opening) :
    World.Settling thread dispute opens' world' := by
  refine ⟨htakes, fun id hlater => ?_⟩
  obtain ⟨session, hsession, hleft⟩ := h.opened id (hopened id hlater)
  obtain ⟨later, hfound, hbecomes, -⟩ := hfollows.core.sessions id session hsession
  refine ⟨later, hfound, fun hdispute hopening => ?_⟩
  rw [hbecomes.disputeId] at hdispute
  rcases hleft hdispute (hbecomes.opening_of_opening hopening) with hstrayed | hopens'
  · exact Or.inl (hfollows.core.strayed.subset hstrayed)
  · rcases hopens id hopens' with hsame | hstrayed | hmoved
    · exact Or.inr hsame
    · exact Or.inl hstrayed
    · exact absurd hopening (hmoved later hfound)

end World.Settling

/-- What a thread knows of its openings lasts while others work and its calls are aside. -/
theorem lasting_settling (dispute : DisputeId) (opens : Option SessionId) :
    (contract deployment condition).Lasting thread aside
      (World.Settling thread dispute opens) := by
  refine ⟨fun h hrely => h.advance hrely.follows hrely.leaves.core.opened
    (hrely.leaves.core.takes dispute h.takes) fun _ hopens => Or.inl hopens, ?_⟩
  intro β request oracle world hcall hinv hpre _ h
  have hsame := performCall_aside deployment thread hcall oracle world
  refine h.advance (performCall_stepped deployment thread request oracle hinv hpre).follows
    (fun id hopened => ?_) ?_ fun _ hopens => Or.inl hopens
  · rw [← show (performCall deployment thread request oracle world).2.core.openedBy =
      world.core.openedBy from hsame.openedBy]
    exact hopened
  · change _ ∈ (performCall deployment thread request oracle world).2.ownTakes
    rw [hsame.ownTakes]
    exact h.takes

/-- The thread's own session is opening, or it ended. -/
theorem lasting_ownOpening (id : SessionId) :
    (contract deployment condition).Lasting thread aside
      fun world => world.core.OwnOpening thread.number id := by
  constructor
  · intro world world' ⟨hopened, session, hsession, hstate⟩ hrely
    obtain ⟨later, hlater, hbecomes, -⟩ := hrely.follows.core.sessions id session hsession
    refine ⟨hrely.follows.core.opener hopened, later, hlater, ?_⟩
    · rcases hstate with hopening | hterminal
      · exact hrely.leaves.core.openings id session later hopened hsession hopening hlater
      · exact Or.inr ((hbecomes.ended hterminal).1 ▸ hterminal)
  · intro β request oracle world hcall _ _ _ ⟨hopened, session, hsession, hstate⟩
    have hsame := performCall_aside deployment thread hcall oracle world
    refine ⟨?_, session, ?_, hstate⟩
    · change (performCall deployment thread request oracle world).2.openedBy[id]? = _
      rw [hsame.openedBy]
      exact hopened
    · change (performCall deployment thread request oracle world).2.store.sessions[id]? = _
      rw [hsame.sessions]
      exact hsession

/-- What a claimed take knows: nobody was taking the dispute, so none of its openings was under
way. -/
theorem settling_of_claim {world : World} (h : world.core.Inv) {dispute : DisputeId}
    (hfree : (world.ownTakes.any fun entry => entry.1 == dispute) = false) :
    World.Settling thread dispute none
      { world with ownTakes := world.ownTakes ++ [(dispute, thread.number)] } := by
  refine ⟨List.mem_append_right _ List.mem_cons_self, fun id hopened => ?_⟩
  have hlt : id < world.core.sessions.length :=
    h.openers ▸ (List.getElem?_eq_some_iff.mp hopened).1
  refine ⟨_, List.getElem?_eq_getElem hlt, fun hdispute hopening => ?_⟩
  by_contra hleft
  obtain ⟨holder, -, htake⟩ := h.held id _ (List.getElem?_eq_getElem hlt) hopening
    fun hstrayed => hleft (Or.inl hstrayed)
  have := List.any_eq_false.mp hfree _ htake
  simp [hdispute] at this

/-- A claim that succeeded holds the take. -/
theorem claim_spec (dispute : DisputeId) :
    (contract deployment condition).Triple thread (fun _ => True) (claim dispute)
      fun result world => result = .ok (.ok ()) → World.Settling thread dispute none world := by
  let known := fun (found : Option (Lifecycle × Bool)) (world : World) =>
    found.isSome = true → world.core.Knows dispute
  have hread : (contract deployment condition).Learns thread (fun _ => True)
      (perform (.read fun store => (store.dispute dispute).map fun row =>
        (row.lifecycle, store.existsForDispute dispute))) known := by
    refine learns_read .true ?_ fun hknown hfollows hsome => (hknown hsome).mono hfollows.core
    intro world _ _ hsome
    rw [Option.isSome_map] at hsome
    obtain ⟨row, hrow⟩ := Option.isSome_iff_exists.mp hsome
    refine List.mem_map.mpr ⟨row, List.mem_of_find?_eq_some hrow, ?_⟩
    simpa using List.find?_some hrow
  refine Spec.Triple.bind _ hread (fun found => ?_) fun _ _ _ _ h => by cases h
  cases found with
  | none => exact fun _ _ _ _ _ _ h => by cases h
  | some found =>
    obtain ⟨lifecycle, hadSession⟩ := found
    -- The claim is decided in one call, on what was read before.
    refine fun world hinv hmid => Spec.Triple.perform
      (fun {world _} (hknown : world.core.Knows dispute) hrely => hknown.mono hrely.follows.core)
        (fun _ _ hknown => hknown) ?_ world hinv (hmid.2 _ rfl rfl)
    intro world oracle later hinv _ _ hrely _ hresult
    have hlasting : (contract deployment condition).Lasting thread aside
        (World.Settling thread dispute none) := lasting_settling dispute none
    refine hlasting.rely ?_ hrely
    change (performCall deployment thread (.claimTake dispute lifecycle hadSession) oracle
      world).1 = _ at hresult
    change World.Settling thread dispute none
      (performCall deployment thread (.claimTake dispute lifecycle hadSession) oracle world).2
    simp only [performCall] at hresult ⊢
    split at hresult
    · next hverdict => exact settling_of_claim hinv (Candidate.taking_of_ok hverdict)
    · next hverdict =>
      rw [Except.ok.injEq] at hresult
      rw [hverdict] at hresult
      cases hresult

/-- What the thread of an opening knows of the session it opens. -/
def World.Opens (thread : Thread Task) (dispute : DisputeId) (id : SessionId) (world : World) :
    Prop :=
  World.Settling thread dispute (some id) world ∧ world.core.OwnOpening thread.number id

/-- The thread of an opening keeps knowing it. -/
theorem lasting_opens (dispute : DisputeId) (id : SessionId) :
    (contract deployment condition).Lasting thread aside (World.Opens thread dispute id) :=
  (lasting_settling dispute (some id)).and (lasting_ownOpening id)

/-- An own opening that is left. -/
theorem World.Opens.stray {world : World} {dispute : DisputeId} {id : SessionId}
    (h : World.Opens thread dispute id world) (hinv : world.core.Inv) :
    World.Settling thread dispute none (world.stray thread.number id) := by
  have hopened : (world.openedBy[id]?) = some thread.number := h.2.1
  have hstepped : Stepped (fun _ => False) world (world.stray thread.number id) :=
    .stray hinv _ id
  have heq : world.stray thread.number id =
      { world with strayed := world.strayed ++ [id] } := if_pos hopened
  rw [heq] at hstepped ⊢
  refine h.1.advance hstepped.follows (fun _ hlater => hlater) h.1.takes fun found hfound => ?_
  rw [Option.some.injEq] at hfound
  exact Or.inr (Or.inl (List.mem_append_right _ (by rw [hfound]; exact List.mem_cons_self)))

/-- What creating a session leaves its thread with. -/
def Created (thread : Thread Task) (dispute : DisputeId) (result : Except String Session)
    (world : World) : Prop :=
  match result with
  | .ok session => World.Opens thread dispute session.sessionId world
  | .error _ => World.Settling thread dispute none world

/-- A session that a take inserted is the thread's own opening. -/
theorem openSession_own {world : World} (h : world.core.Inv) {dispute : DisputeId}
    (hsettling : World.Settling thread dispute none world) (oracle : Oracle)
    (info : SolverDisputeInfo) (order : OrderEvent) (now : Int) :
    let done := world.orFail oracle
      (world.openSession thread.number oracle dispute info order now)
    Created thread dispute done.1 done.2 := by
  simp only []
  unfold World.orFail
  split
  · exact hsettling
  · unfold World.openSession
    simp only []
    split
    · exact hsettling
    · exact hsettling
    · next store hinsert =>
      unfold Store.insertSession at hinsert
      repeat' split at hinsert
      all_goals cases hinsert
      have hlength : world.openedBy.length = world.store.sessions.length := h.openers
      let row := (openingSession world.store world.clock dispute info order now).row
      -- The world with the session: it is the thread's, and the one it opens.
      have hopens : World.Opens thread dispute world.store.sessions.length
          { world with
            store := { world.store with sessions := world.store.sessions ++ [row] }
            openedBy := world.openedBy ++ [thread.number]
            insertedAt := world.insertedAt ++ [world.published.length] } := by
        have hopened : (world.openedBy ++ [thread.number])[world.store.sessions.length]? =
            some thread.number := by
          rw [← hlength, List.getElem?_concat_length]
        refine ⟨⟨hsettling.takes, fun id hid => ?_⟩, hopened, row,
          List.getElem?_concat_length, Or.inl rfl⟩
        rcases Nat.lt_or_ge id world.store.sessions.length with hlt | hge
        · obtain ⟨session, hsession, hleft⟩ := hsettling.opened id (by
            change (world.openedBy ++ [thread.number])[id]? = _ at hid
            rw [List.getElem?_append_left (hlength ▸ hlt)] at hid
            exact hid)
          refine ⟨session, ?_, fun hdispute hopening => ?_⟩
          · change (world.store.sessions ++ [row])[id]? = _
            rw [List.getElem?_append_left hlt]
            exact hsession
          · rcases hleft hdispute hopening with hstrayed | hnone
            · exact Or.inl hstrayed
            · cases hnone
        · have hlast : id = world.store.sessions.length := by
            have := (List.getElem?_eq_some_iff.mp hid).1
            change id < (world.openedBy ++ [thread.number]).length at this
            rw [List.length_append, List.length_singleton, hlength] at this
            exact Nat.le_antisymm (Nat.lt_succ_iff.mp this) hge
          subst hlast
          exact ⟨row, List.getElem?_concat_length, fun _ _ => Or.inr rfl⟩
      have hinv := (h.insertSession row thread.number rfl rfl rfl hsettling.takes
        fun other hother hlive hdispute => by
          rename_i hfree
          rw [Option.not_isSome_iff_eq_none] at hfree
          have := List.find?_eq_none.mp hfree other hother
          rw [hlive, Bool.and_true, beq_iff_eq] at this
          exact this hdispute).inv
      split
      · exact hopens.stray hinv
      · exact hopens

/-- A session that was created is the thread's own opening. -/
theorem createSession_spec (dispute : DisputeId) (info : SolverDisputeInfo) (now : Int) :
    (contract deployment condition).Triple thread (World.Settling thread dispute none)
      (createSession dispute info now) (Created thread dispute) := by
  have hsettling : (contract deployment condition).Lasting thread aside
      (World.Settling thread dispute none) := lasting_settling dispute none
  have hopens : ∀ id, (contract deployment condition).Lasting thread aside
      (World.Opens thread dispute id) := lasting_opens dispute
  unfold createSession
  split
  · exact fun _ _ hholds _ hrely _ => hsettling.rely hholds hrely
  · refine Spec.Triple.bind _ (Spec.Keeps.perform hsettling rfl fun _ _ _ => trivial)
      (fun order => ?_) fun _ _ _ hholds => hholds
    have hinsert : (contract deployment condition).Triple thread
        (World.Settling thread dispute none) (perform (.insertSession dispute info order now))
        (Created thread dispute) := by
      refine .perform hsettling.rely (fun _ _ hholds => hholds.takes) ?_
      intro world oracle later hinv hholds hcond hrely hlater
      change Rely thread (world.orFail oracle
        (world.openSession thread.number oracle dispute info order now)).2 later at hrely
      change Created thread dispute (world.orFail oracle
        (world.openSession thread.number oracle dispute info order now)).1 later
      have hown := openSession_own hinv hholds oracle info order now
      simp only [] at hown
      cases hresult : (world.orFail oracle
          (world.openSession thread.number oracle dispute info order now)).1 with
      | ok session =>
        rw [hresult] at hown
        exact (hopens session.sessionId).rely hown hrely
      | error failure =>
        rw [hresult] at hown
        exact hsettling.rely hown hrely
    refine Spec.Triple.bind _ hinsert (fun session => ?_) fun _ _ _ hmid => hmid
    -- The channels of the session open, or its opening is left.
    have hchat : (contract deployment condition).Triple thread
        (World.Opens thread dispute session.sessionId) (perform (.openChat session.sessionId))
        fun result => Created thread dispute (result.map fun _ => session) := by
      refine .perform (hopens session.sessionId).rely (fun _ _ _ => trivial) ?_
      intro world oracle later hinv hholds _ hrely _
      change Rely thread (world.openChat thread.number oracle session.sessionId).2 later at hrely
      change Created thread dispute
        ((world.openChat thread.number oracle session.sessionId).1.map fun _ => session) later
      have hchats : World.Opens thread dispute session.sessionId
          { world with
            openChats := world.openChats.filter (· != session.sessionId) ++
              [session.sessionId] } :=
        ⟨⟨hholds.1.takes, hholds.1.opened⟩, hholds.2⟩
      revert hrely
      unfold World.openChat
      simp only []
      split
      · exact fun hrely => hsettling.rely (hholds.stray hinv) hrely
      · exact fun hrely => hsettling.rely (hchats.stray hinv) hrely
      · exact fun hrely => (hopens session.sessionId).rely hchats hrely
    refine Spec.Triple.bind _ hchat (fun _ => ?_) fun _ _ _ hmid => hmid
    exact fun _ _ hholds _ hrely _ => (hopens session.sessionId).rely hholds hrely

/-- Greeting the parties of an own opening. -/
theorem keeps_greet (hfact : (contract deployment condition).Lasting thread aside fact)
    {session : Session}
    (hown : ∀ world, fact world → world.core.OwnOpening thread.number session.sessionId) :
    (contract deployment condition).Keeps thread fact (greet deployment session) :=
  .forEach hfact fun _ _ => .bind (.ofExcept hfact _) fun _ =>
    keeps_sendWhen hfact fun world _ hholds => Or.inr (hown world hholds)

/-- The notice that an opening failed. -/
theorem keeps_sendOpeningNotice (hfact : (contract deployment condition).Lasting thread aside fact)
    (dispute : DisputeId) (now : Int) :
    (contract deployment condition).Keeps thread fact
      (sendOpeningNotice deployment dispute now) := by
  refine .bind (.attempt (keeps_notifySolvers hfact _ _ _ _)) fun delivered => ?_
  cases delivered with
  | error failure => exact .done hfact ()
  | ok delivered =>
    simp only []
    split
    · exact .done hfact ()
    · exact .bind (.attempt (.perform hfact rfl fun _ _ _ => rfl)) fun _ => .done hfact ()

/-- What the thread of a failed opening knows: nothing was inserted, or the session is its own
opening. -/
def World.Failing (thread : Thread Task) (dispute : DisputeId) (session : Option Session)
    (world : World) : Prop :=
  match session with
  | none => World.Settling thread dispute none world
  | some session => World.Opens thread dispute session.sessionId world

/-- The thread of a failed opening keeps knowing it. -/
theorem lasting_failing (dispute : DisputeId) (session : Option Session) :
    (contract deployment condition).Lasting thread aside
      (World.Failing thread dispute session) := by
  cases session with
  | none => exact lasting_settling dispute none
  | some session => exact lasting_opens dispute session.sessionId

/-- The transaction of a failed opening settles it. -/
theorem settling_of_abandon {world : World} (h : world.core.Inv) {dispute : DisputeId}
    {session : Option Session} (hfailing : World.Failing thread dispute session world)
    (observers : List Nat) (reason : String) (now : Int) :
    World.Settling thread dispute none
      (world.abandon observers dispute (session.map Session.sessionId) reason now) := by
  cases session with
  | none =>
    have hstepped : Stepped (· = thread.number) world
        (world.abandon observers dispute none reason now) :=
      .abandon h (fun _ hknown => by cases hknown) observers dispute reason now
    exact hfailing.advance hstepped.follows (fun _ hlater => hlater) hfailing.takes
      fun _ hnone => by cases hnone
  | some session =>
    obtain ⟨hsettling, hown⟩ := hfailing
    have hstepped : Stepped (· = thread.number) world
        (world.abandon observers dispute (some session.sessionId) reason now) :=
      .abandon h (fun known hknown => by cases hknown; exact hown) observers dispute reason now
    refine hsettling.advance hstepped.follows (fun _ hlater => hlater) hsettling.takes
      fun id hid => Or.inr (Or.inr fun later hlater => ?_)
    cases hid
    obtain ⟨hsessions, -⟩ := Stepped.abandonOpening_spec world.store observers dispute
      (some session.sessionId) reason now
    change (world.store.abandonOpening observers dispute (some session.sessionId) reason
      now).sessions[session.sessionId]? = _ at hlater
    rw [hsessions] at hlater
    simp only [Store.handOff, Store.updateSessions, List.getElem?_map, Option.map_eq_some_iff]
      at hlater
    obtain ⟨row, hrow, rfl⟩ := hlater
    have hid : row.sessionId = session.sessionId := h.numbered _ row hrow
    split
    · simp
    · next hpicked =>
      -- A row that was not claimed was not opening.
      intro hopening
      simp [hid, hopening, SessionState.isMediating] at hpicked

/-- An opening that failed leaves nothing of its own opening. -/
theorem abandon_spec {dispute : DisputeId} (session : Option Session) (reason : String)
    (now : Int) :
    (contract deployment condition).Triple thread (World.Failing thread dispute session)
      (abandon deployment dispute session reason now)
      fun _ => World.Settling thread dispute none := by
  have hlasting : (contract deployment condition).Lasting thread aside
      (World.Settling thread dispute none) := lasting_settling dispute none
  have hbefore : (contract deployment condition).Lasting thread aside
      (World.Failing thread dispute session) := lasting_failing dispute session
  have hneeds : ∀ world, World.Failing thread dispute session world →
      Needs thread (.abandon dispute (session.map Session.sessionId) reason now) world := by
    intro world hfailing known hknown
    obtain ⟨found, rfl, rfl⟩ := Option.map_eq_some_iff.mp hknown
    exact hfailing.2
  refine Spec.Triple.bind (fun _ => World.Settling thread dispute none)
    (Spec.Triple.perform hbefore.rely (fun world _ hholds => hneeds world hholds) ?_) (fun _ => ?_)
    fun _ _ _ hmid => hmid
  · intro world oracle later hinv hholds _ hrely _
    refine hlasting.rely ?_ hrely
    change World.Settling thread dispute none (performCall deployment thread
      (.abandon dispute (session.map Session.sessionId) reason now) oracle world).2
    simp only [performCall]
    split
    -- The write fails: the session, if there is one, is left behind.
    · cases session with
      | none => exact hholds
      | some session => exact World.Opens.stray hholds hinv
    · exact settling_of_abandon hinv hholds deployment.observers reason now
  · cases session with
    | none =>
      exact Spec.Keeps.bind (keeps_sendOpeningNotice hlasting dispute now) fun _ =>
        .done hlasting _
    | some session =>
      exact Spec.Keeps.bind (.perform hlasting rfl fun _ _ _ => trivial) fun _ =>
        .bind (keeps_sendOpeningNotice hlasting dispute now) fun _ => .done hlasting _

/-- The transaction at the end of an opening settles it. -/
theorem settling_of_activate {world : World} (h : world.core.Inv) {dispute : DisputeId}
    {id : SessionId} (hopens : World.Opens thread dispute id world) (observers : List Nat)
    (now : Int) :
    World.Settling thread dispute none (world.activate observers dispute id now) := by
  have hstepped := Stepped.activate h hopens.2 observers dispute now
  refine hopens.1.advance hstepped.follows (fun _ hlater => hlater) hopens.1.takes
    fun found hfound => Or.inr (Or.inr fun later hlater => ?_)
  cases hfound
  simp only [World.core, World.activate, Store.queueForObservers_sessions, Store.setState,
    Store.updateSessions, List.getElem?_map, Option.map_eq_some_iff] at hlater
  obtain ⟨row, hrow, rfl⟩ := hlater
  have hid : row.sessionId = id := h.numbered _ row hrow
  split
  · simp
  · next hpicked =>
    intro hopening
    simp [hid, Session.isLive, hopening, SessionState.isTerminal] at hpicked

/-- An opening that reached both parties leaves nothing of its own opening. -/
theorem activate_spec {dispute : DisputeId} {session : Session} (now : Int) :
    (contract deployment condition).Triple thread
      (World.Opens thread dispute session.sessionId)
      (activate deployment dispute session now)
      fun _ => World.Settling thread dispute none := by
  have hlasting : (contract deployment condition).Lasting thread aside
      (World.Settling thread dispute none) := lasting_settling dispute none
  have hopens : (contract deployment condition).Lasting thread aside
      (World.Opens thread dispute session.sessionId) := lasting_opens _ _
  refine Spec.Triple.bind (fun _ => World.Settling thread dispute none)
    (Spec.Triple.perform hopens.rely (fun _ _ hholds => hholds.2) ?_) (fun _ => ?_)
    fun _ _ _ hmid => hmid
  · intro world oracle later hinv hholds _ hrely _
    refine hlasting.rely ?_ hrely
    change World.Settling thread dispute none (performCall deployment thread
      (.activate dispute session.sessionId now) oracle world).2
    simp only [performCall]
    split
    · exact hholds.stray hinv
    · exact settling_of_activate hinv hholds deployment.observers now
  · exact Spec.Keeps.bind (keeps_notifySolvers hlasting _ _ _ _) fun _ =>
      .bind (.perform hlasting rfl fun _ _ _ => rfl) fun _ => .done hlasting _

/-- Opening the dispute of a take, whatever comes of it, leaves nothing of its own opening. -/
theorem openDispute_spec (dispute : DisputeId) (now : Int) :
    (contract deployment condition).Triple thread (World.Settling thread dispute none)
      (openDispute deployment dispute now) fun _ => World.Settling thread dispute none := by
  have hlasting : (contract deployment condition).Lasting thread aside
      (World.Settling thread dispute none) := lasting_settling dispute none
  refine Spec.Keeps.bind (.attempt (.perform hlasting rfl fun _ _ _ => trivial)) fun taken => ?_
  cases taken with
  | error reason =>
    exact Spec.Keeps.bind (.perform hlasting rfl fun _ _ _ => rfl) fun _ => .done hlasting _
  | ok info =>
    refine Spec.Triple.bind (fun result world => ∃ created, result = .ok created ∧
      Created thread dispute created world) (Spec.Triple.attempt (createSession_spec dispute info
        now) fun created _ _ hmid => ⟨created, rfl, hmid⟩) (fun created => ?_)
        fun _ _ _ ⟨_, heq, _⟩ => by cases heq
    -- What was created is what the attempt returned.
    have known : ∀ world, (∃ found, Except.ok created = (Except.ok found : Except String _) ∧
        Created thread dispute found world) → Created thread dispute created world := by
      rintro world ⟨found, heq, hcreated⟩
      cases heq
      exact hcreated
    cases created with
    | error reason =>
      -- A session that could not be created leaves its row to the abandoning.
      exact (abandon_spec none reason now).consequence (fun world _ hmid => known world hmid)
        fun _ _ _ hpost => hpost
    | ok session =>
      have hopens : (contract deployment condition).Lasting thread aside
          (World.Opens thread dispute session.sessionId) := lasting_opens _ _
      refine Spec.Triple.bind (fun result world => ∃ greeted, result = .ok greeted ∧
        World.Opens thread dispute session.sessionId world) (Spec.Triple.attempt
          ((keeps_greet hopens fun _ hholds => hholds.2).consequence
            (fun world _ hmid => known world hmid) fun _ _ _ hpost => hpost)
          fun greeted _ _ hmid => ⟨greeted, rfl, hmid⟩) (fun greeted => ?_)
          fun _ _ _ ⟨_, heq, _⟩ => by cases heq
      cases greeted with
      | error failure =>
        exact (abandon_spec (some session) _ now).consequence
          (fun _ _ ⟨_, _, hmid⟩ => hmid) fun _ _ _ hpost => hpost
      | ok _ =>
        exact (activate_spec now).consequence (fun _ _ ⟨_, _, hmid⟩ => hmid)
          fun _ _ _ hpost => hpost

/-- **An attempt to mediate** makes every call with what it needs. -/
theorem keeps_consider (dispute : DisputeId) (now : Int) :
    (contract deployment condition).Keeps thread (fun _ => True)
      (consider deployment dispute now) := by
  have htrue : (contract deployment condition).Lasting thread anyCall fun _ => True := .true
  let claimed := fun (result : Except String (Except Ineligible Unit)) (world : World) =>
    result = .ok (.ok ()) → World.Settling thread dispute none world
  refine Spec.Triple.bind (fun result world => ∀ inner, result = .ok inner →
    claimed inner world) (Spec.Triple.attempt (claim_spec dispute) fun result _ _ hmid inner heq =>
      by cases heq; exact hmid) (fun verdict => ?_) fun _ _ _ _ => trivial
  have ended : ∀ {outcome : Opening}, (contract deployment condition).Triple thread
      (fun world => ∀ inner, Except.ok verdict = (Except.ok inner : Except String _) →
        claimed inner world) (done outcome) fun _ _ => True :=
    fun _ _ _ _ _ _ => trivial
  match verdict with
  | .error failure => exact ended
  | .ok (.error reason) => exact ended
  | .ok (.ok ()) =>
    refine fun world hinv hmid => Spec.Triple.bind
      (fun _ => World.Settling thread dispute none)
      (Spec.Triple.attempt (openDispute_spec dispute now) fun _ _ _ hmid => hmid)
        (fun outcome => ?_) (fun _ _ _ _ => trivial) world hinv (hmid _ rfl rfl)
    refine Spec.Triple.bind (fun _ _ => True) (Spec.Triple.perform
      (lasting_settling dispute none).rely (fun _ _ hholds => ⟨hholds.takes, hholds.settled⟩)
        fun _ _ _ _ _ _ _ _ => trivial) (fun _ => ?_) fun _ _ _ _ => trivial
    cases outcome with
    | ok outcome => exact Spec.Keeps.done htrue _
    | error failure => exact Spec.Keeps.done htrue _

/-- The pass over the disputes still open. -/
theorem keeps_reconsider (since now : Int) :
    (contract deployment condition).Keeps thread (fun _ => True)
      (reconsider deployment since now) := by
  have htrue : (contract deployment condition).Lasting thread aside fun _ => True := .true
  refine .bind (.attempt (.perform htrue rfl fun _ _ _ => trivial)) fun waiting => ?_
  cases waiting with
  | error failure => exact .done htrue ()
  | ok waiting =>
    refine .forEach htrue fun row _ => ?_
    exact .bind (keeps_consider row.disputeId now) fun _ => .done htrue ()

/-! ## Turns -/

/-- The session was active once. -/
def Session.Met (session : Session) (world : World) : Prop :=
  world.core.Known session.sessionId 1 session.disputeId

/-- A session that was active stays one that was. -/
theorem lasting_met (session : Session) :
    (contract deployment condition).Lasting thread anyCall session.Met :=
  lasting_of_follows fun hmet hfollows => hmet.mono hfollows.core

/-- The flood check. -/
theorem keeps_flooded (hfact : (contract deployment condition).Lasting thread aside fact)
    (session : Session) (messages : List Message) (now : Int) :
    (contract deployment condition).Keeps thread fact
      (flooded deployment session messages now) := by
  refine .bind (.perform hfact rfl fun _ _ _ => trivial) fun read => ?_
  refine .foldEach hfact (fun carried party _ => ?_) false
  simp only []
  split
  · exact .bind (.perform hfact rfl fun _ _ _ => rfl) fun _ => .done hfact _
  · exact .done hfact _

/-- The last reading. -/
theorem keeps_lastReading (hfact : (contract deployment condition).Lasting thread aside fact)
    (session : Session) (messages : List Message) :
    (contract deployment condition).Keeps thread fact
      (lastReading deployment session messages) := by
  refine .bind (.perform hfact rfl fun _ _ _ => trivial) fun ready => ?_
  split
  · exact .done hfact none
  · refine .bind (.perform hfact rfl fun _ _ _ => trivial) fun read => ?_
    obtain ⟨last, openedBy⟩ := read
    cases last <;> cases openedBy <;> exact .done hfact _

/-- The languages that a turn detects. -/
theorem keeps_updateLanguages (hfact : (contract deployment condition).Lasting thread anyCall fact)
    (session : Session) (facts : Facts) (now : Int) :
    (contract deployment condition).Keeps thread fact
      (updateLanguages deployment session facts now) := by
  refine .foldEach hfact (fun changed party _ => ?_) []
  split
  · exact .bind (.perform hfact trivial fun _ _ _ => trivial) fun _ => .done hfact _
  · exact .done hfact _

/-- The questions to a party. -/
theorem keeps_askParty (hfact : (contract deployment condition).Lasting thread anyCall fact)
    (session : Session) (next : NextQuestions) (templates : Party → List Template) (now : Int)
    (firstInTurn : Bool) (party : Party) :
    (contract deployment condition).Keeps thread fact
      (askParty deployment session next templates now firstInTurn party) := by
  have hside := lasting_aside hfact
  refine .bind (.forEach hside fun template _ => keeps_sendTemplate hside session party template)
    fun _ => ?_
  split
  · exact .bind (.perform hfact trivial fun _ _ _ => trivial) fun _ => .done hfact _
  · exact .done hfact _

/-- Acting on a session known to have been active. -/
theorem keeps_act (hfact : (contract deployment condition).Lasting thread anyCall fact)
    {session : Session} (hmet : ∀ world, fact world → session.Met world) (reading : TurnReading)
    (next : NextQuestions) (now : Int) (action : Action) :
    (contract deployment condition).Keeps thread fact
      (act deployment session reading next now action) := by
  cases action with
  | ask buyer seller =>
    exact .bind (.foldEach hfact (fun first party _ => keeps_askParty hfact session next _ now first
      party) true) fun _ => .done hfact ()
  | handoff reason => exact .bind (keeps_handOff hfact hmet reason _ now) fun _ => .done hfact ()
  | guide path => exact keeps_guide hfact hmet path reading now
  | hold =>
    exact .bind (.perform hfact trivial fun _ _ _ => trivial) fun _ => keeps_hold hfact hmet _
  | wait => exact .done hfact ()

/-- A session read again is still known to have been active. -/
theorem learns_reload (hfact : (contract deployment condition).Lasting thread anyCall fact)
    {session : Session} (hmet : ∀ world, fact world → session.Met world) :
    (contract deployment condition).Learns thread fact (reload session.sessionId)
      fun current world => current.Met world := by
  let known := fun (found : Option Session) (world : World) =>
    ∀ current, found = some current → current.Met world
  have hread : (contract deployment condition).Learns thread fact
      (perform (.read fun store => store.session session.sessionId)) known := by
    refine learns_read (lasting_aside hfact) ?_ fun hknown hfollows current heq =>
      (hknown current heq).mono hfollows.core
    intro world hinv hholds current hcurrent
    obtain ⟨row, hrow, hstage, -⟩ := hmet world hholds
    rw [hinv.session_eq, hrow, Option.some.injEq] at hcurrent
    subst hcurrent
    exact ⟨row, hinv.getElem?_of_mem (List.mem_of_getElem? hrow), hstage, rfl⟩
  refine Spec.Triple.bind _ hread (fun found => ?_) fun _ _ _ hmid =>
    ⟨hmid.1, fun _ h => by cases h⟩
  cases found with
  | none => exact fun _ _ hmid _ hrely _ => ⟨hfact.rely hmid.1 hrely, fun _ h => by cases h⟩
  | some current =>
    refine fun _ _ hmid _ hrely _ => ⟨hfact.rely hmid.1 hrely, fun found hfound => ?_⟩
    cases hfound
    exact (hmid.2 _ rfl _ rfl).mono hrely.follows.core

/-- Deciding, for a session known to have been active. -/
theorem keeps_decideAndAct (hfact : (contract deployment condition).Lasting thread anyCall fact)
    {session : Session} (hmet : ∀ world, fact world → session.Met world) (messages : List Message)
    (phase : Phase) (state : JudgeState) (answers : Answers) (now : Int) :
    (contract deployment condition).Keeps thread fact
      (decideAndAct deployment session messages phase state answers now) := by
  refine .bind (keeps_updateLanguages hfact session _ now) fun changed => ?_
  refine Spec.Learns.bind _ (learns_reload hfact hmet) fun current => ?_
  have hcurrent : (contract deployment condition).Lasting thread anyCall current.Met :=
    lasting_met current
  have hboth := hfact.and hcurrent
  have hside := lasting_aside hboth
  refine .bind (.perform hside rfl fun _ _ _ => trivial) fun events => ?_
  refine .bind (.perform hside rfl fun _ _ _ => trivial) fun _ => ?_
  exact .bind (keeps_act hboth (fun _ hholds => hholds.2) _ _ now _) fun _ => .done hboth _

/-- The judge's call leaves known what was. -/
theorem keeps_judgeTurn (hfact : (contract deployment condition).Lasting thread anyCall fact)
    {session : Session} (hmet : ∀ world, fact world → session.Met world) (messages : List Message)
    (phase : Phase) (state : JudgeState) (now : Int) :
    (contract deployment condition).Keeps thread fact
      (judgeTurn deployment session messages phase state now) := by
  have hside := lasting_aside hfact
  refine .bind (.attempt (.perform hside rfl fun _ _ _ => trivial)) fun judged => ?_
  cases judged with
  | error failure =>
    exact .bind (keeps_handOff hfact hmet .judgeUnavailable none now) fun _ => .done hfact _
  | ok answers =>
    refine .bind (.perform hside rfl fun _ _ _ => trivial) fun newer => ?_
    split
    · exact .done hfact _
    · refine .bind (.perform hside rfl fun _ _ _ => trivial) fun moved => ?_
      split
      · exact .done hfact _
      · exact keeps_decideAndAct hfact hmet messages phase state answers now

/-- The flood check and the judged turn. -/
theorem keeps_liveTurn (hfact : (contract deployment condition).Lasting thread anyCall fact)
    {session : Session} (hmet : ∀ world, fact world → session.Met world) (messages : List Message)
    (openedBy : Initiator) (phase : Phase) (now : Int) :
    (contract deployment condition).Keeps thread fact
      (liveTurn deployment session messages openedBy phase now) := by
  have hside := lasting_aside hfact
  unfold liveTurn
  simp only []
  split
  · exact .done hfact _
  · refine .bind (keeps_flooded hside session messages now) fun flood => ?_
    split
    · refine .bind (keeps_lastReading hside session messages) fun last => ?_
      exact .bind (keeps_handOff hfact hmet .flood last now) fun _ => .done hfact _
    · exact keeps_judgeTurn hfact hmet messages phase _ now

/-- A turn judges sessions that are active or guiding. -/
theorem stage_of_phaseOf {state : SessionState} {phase : Phase} (h : phaseOf state = some phase) :
    1 ≤ state.stage := by
  cases state <;> first | decide | cases h

/-- What a turn knows of the session it loaded. -/
def Loaded (loaded : Option (Session × List Message × Initiator)) (world : World) : Prop :=
  ∀ session messages openedBy, loaded = some (session, messages, openedBy) →
    world.core.Known session.sessionId session.state.stage session.disputeId

/-- The phase tells that the session was active. -/
theorem keeps_mediatingTurn (hfact : (contract deployment condition).Lasting thread anyCall fact)
    {session : Session}
    (hknown : ∀ world, fact world →
      world.core.Known session.sessionId session.state.stage session.disputeId)
    (messages : List Message) (openedBy : Initiator) (now : Int) :
    (contract deployment condition).Keeps thread fact
      (mediatingTurn deployment session messages openedBy now) := by
  have hside := lasting_aside hfact
  refine .bind (.perform hside rfl fun _ _ _ => trivial) fun ready => ?_
  split
  · exact .done hfact _
  · split
    · exact .done hfact _
    · next phase hphase =>
      refine keeps_liveTurn hfact (fun world hholds => ?_) messages openedBy phase now
      obtain ⟨row, hrow, hstage, hdispute⟩ := hknown world hholds
      exact ⟨row, hrow, (stage_of_phaseOf hphase).trans hstage, hdispute⟩

/-- A turn knows the state its session was loaded in. -/
theorem learns_load (hfact : (contract deployment condition).Lasting thread aside fact)
    (id : SessionId) :
    (contract deployment condition).Learns thread fact (perform (.load id)) Loaded := by
  have hcall : aside (Call.load id) := rfl
  refine learns_of_look hfact hcall (fun _ => trivial) (fun store => store.load id)
    (fun _ _ => rfl) ?_ ?_
  · intro world hinv _ session messages openedBy hloaded
    obtain ⟨found, hfound, hrest⟩ := Option.bind_eq_some_iff.mp hloaded
    obtain ⟨dispute, -, heq⟩ := Option.map_eq_some_iff.mp hrest
    cases heq
    exact ⟨session, hinv.getElem?_of_mem (List.mem_of_find?_eq_some hfound), le_rfl, rfl⟩
  · exact fun hknown hfollows session messages openedBy hloaded =>
      (hknown session messages openedBy hloaded).mono hfollows.core

/-- **A turn** makes every call with what it needs. -/
theorem keeps_runTurn (hfact : (contract deployment condition).Lasting thread anyCall fact)
    (id : SessionId) (now : Int) :
    (contract deployment condition).Keeps thread fact (runTurn deployment id now) := by
  refine Spec.Learns.bind _ (learns_load (lasting_aside hfact) id) fun loaded => ?_
  have hloaded : (contract deployment condition).Lasting thread anyCall (Loaded loaded) :=
    lasting_of_follows fun hknown hfollows session messages openedBy heq =>
      (hknown session messages openedBy heq).mono hfollows.core
  have hboth := hfact.and hloaded
  have hside := lasting_aside hboth
  cases loaded with
  | none => exact .done hboth _
  | some loaded =>
    obtain ⟨session, messages, openedBy⟩ := loaded
    have hturn : (contract deployment condition).Keeps thread
        (fun world => fact world ∧ Loaded (some (session, messages, openedBy)) world)
        (mediatingTurn deployment session messages openedBy now) :=
      keeps_mediatingTurn hboth (fun _ hholds => hholds.2 _ _ _ rfl) messages openedBy now
    simp only []
    split
    · exact .bind (keeps_forwardUpdates hside session now) fun _ => .done hboth _
    · exact .bind (.attempt (keeps_resendGuides hside session)) fun _ => hturn
    · exact hturn

/-- A turn in the loop. -/
theorem keeps_turnLogged (hfact : (contract deployment condition).Lasting thread anyCall fact)
    (id : SessionId) :
    (contract deployment condition).Keeps thread fact (turnLogged deployment id) := by
  refine .bind (.perform hfact trivial fun _ _ _ => trivial) fun now => ?_
  refine .bind (.attempt (keeps_runTurn hfact id now)) fun outcome => ?_
  split
  · exact .perform hfact trivial fun _ _ _ => trivial
  · exact .perform hfact trivial fun _ _ _ => trivial

/-! ## The timer task -/

/-- Opening a chat again. -/
theorem keeps_chatOpen (hfact : (contract deployment condition).Lasting thread aside fact)
    (session : Session) :
    (contract deployment condition).Keeps thread fact (chatOpen session) := by
  refine .bind (.perform hfact rfl fun _ _ _ => trivial) fun isOpen => ?_
  split
  · exact .done hfact true
  · refine .bind (.attempt (.perform hfact rfl fun _ _ _ => trivial)) fun opened => ?_
    cases opened <;> exact .done hfact _

/-- The timers of a session known to have been active. -/
theorem keeps_tickSession (hfact : (contract deployment condition).Lasting thread anyCall fact)
    {session : Session} (hmet : ∀ world, fact world → session.Met world) (now : Int) :
    (contract deployment condition).Keeps thread fact (tickSession deployment session now) := by
  have hside := lasting_aside hfact
  refine .bind (.perform hside rfl fun _ _ _ => trivial) fun read => ?_
  obtain ⟨messages, history⟩ := read
  simp only []
  split
  · exact .done hfact ()
  · exact .forEach hside fun party _ => keeps_sendTemplate hside session party .reminder
  · refine .bind (keeps_lastReading hside session messages) fun last => ?_
    exact .bind (keeps_handOff hfact hmet _ last now) fun _ => .done hfact ()

/-- The retries of a session, which claim nothing. -/
theorem keeps_retryUndelivered (hfact : (contract deployment condition).Lasting thread aside fact)
    (session : Session) (now : Int) :
    (contract deployment condition).Keeps thread fact
      (retryUndelivered deployment session now) := by
  have hnotices : ∀ messages : List Message, (contract deployment condition).Keeps thread fact
      (forEach (retryNotice deployment session messages) Party.both) := by
    refine fun messages => .forEach hfact fun party _ => ?_
    unfold retryNotice
    split
    · exact .done hfact ()
    · exact .bind (.attempt (keeps_sendTemplate hfact session party .handoffNotice)) fun _ =>
        .done hfact ()
  -- The phases of the session: handed off, guiding, held, or none of these.
  have hparties : ∀ messages held, (contract deployment condition).Keeps thread fact
      (retryParties deployment session messages held) := by
    intro messages held
    unfold retryParties
    split
    · split
      · exact .done hfact ()
      · exact hnotices messages
    · exact .bind (keeps_resendGuides hfact session) fun _ => .done hfact ()
    · split
      · exact keeps_sendHoldNotices hfact session _
      · exact .done hfact ()
    · exact .done hfact ()
  refine .bind (.perform hfact rfl fun _ _ _ => trivial) fun read => ?_
  obtain ⟨messages, history⟩ := read
  simp only []
  split
  · exact .done hfact ()
  · refine .bind (.forEach hfact fun brief _ => ?_) fun _ => hparties messages _
    refine .bind (keeps_lastReading hfact session messages) fun last => ?_
    refine .bind (keeps_briefSolvers hfact session brief.2 last now) fun delivered => ?_
    split
    · exact .perform hfact rfl fun _ _ _ => rfl
    · exact .done hfact ()

/-- The timers of one session of the pass, as it was listed. -/
theorem keeps_tickLive (hfact : (contract deployment condition).Lasting thread anyCall fact)
    {session : Session}
    (hknown : ∀ world, fact world →
      world.core.Known session.sessionId session.state.stage session.disputeId) (now : Int) :
    (contract deployment condition).Keeps thread fact (tickLive deployment now session) := by
  have hside := lasting_aside hfact
  refine .bind (.attempt ?_) fun _ => .bind (.attempt (keeps_retryUndelivered hside session now))
    fun _ => .done hfact ()
  split
  · next htimed =>
    have hmet : ∀ world, fact world → session.Met world := by
      intro world hholds
      obtain ⟨row, hrow, hstage, hdispute⟩ := hknown world hholds
      refine ⟨row, hrow, le_trans ?_ hstage, hdispute⟩
      rcases htimed with hactive | hguiding
      · rw [hactive]
        decide
      · rw [hguiding]
        decide
    refine .bind (keeps_chatOpen hside session) fun isOpen => ?_
    split
    · exact keeps_tickSession hfact hmet now
    · exact .bind (keeps_handOff hfact hmet .openingFailed none now) fun _ => .done hfact ()
  · exact .done hfact ()

/-- The opening notices still pending. -/
theorem keeps_retryOpeningNotices
    (hfact : (contract deployment condition).Lasting thread aside fact) (now : Int) :
    (contract deployment condition).Keeps thread fact (retryOpeningNotices deployment now) := by
  refine .bind (.attempt (.perform hfact rfl fun _ _ _ => trivial)) fun pending => ?_
  cases pending with
  | error failure => exact .done hfact ()
  | ok pending =>
    refine .forEach hfact fun dispute _ => .bind (.attempt ?_) fun _ => .done hfact ()
    refine .bind (.perform hfact rfl fun _ _ _ => trivial) fun resolved => ?_
    split
    · exact .done hfact ()
    · exact keeps_sendOpeningNotice hfact dispute now

/-- **A pass of the timer task** makes every call with what it needs. -/
theorem keeps_tick (hfact : (contract deployment condition).Lasting thread anyCall fact)
    (now : Int) :
    (contract deployment condition).Keeps thread fact (tick deployment now) := by
  let known := fun (live : List Session) (world : World) => ∀ session ∈ live,
    world.core.Known session.sessionId session.state.stage session.disputeId
  refine Spec.Learns.bind known (learns_read (lasting_aside hfact) ?_
    fun hknown hfollows session hmem => (hknown session hmem).mono hfollows.core) fun live => ?_
  · intro world hinv _ session hmem
    rw [Store.listLive, List.mem_insertionSort] at hmem
    exact ⟨session, hinv.getElem?_of_mem (List.mem_of_mem_filter hmem), le_rfl, rfl⟩
  · have hlive : (contract deployment condition).Lasting thread anyCall (known live) :=
      lasting_of_follows fun hknown hfollows session hmem =>
        (hknown session hmem).mono hfollows.core
    have hboth := hfact.and hlive
    refine .bind (.forEach hboth fun session hmem => keeps_tickLive hboth
      (fun _ hholds => hholds.2 session hmem) now) fun _ => ?_
    exact .bind (keeps_finishPending hboth _ now) fun _ =>
      keeps_retryOpeningNotices (lasting_aside hboth) now

/-! ## The notifier's tasks -/

/-- The first notification of a dispute. -/
theorem keeps_notifyNew (hfact : (contract deployment condition).Lasting thread anyCall fact)
    (dispute : DisputeEvent) (now : Int) :
    (contract deployment condition).Keeps thread fact (notifyNew deployment dispute now) := by
  refine .bind (keeps_notifySolvers (lasting_aside hfact) _ _ _ _) fun delivered => ?_
  split
  · exact .bind (.perform hfact trivial fun _ _ _ => trivial) fun _ => .done hfact _
  · exact .done hfact _

/-- A change to resolved tells the revision's status, which is final. -/
theorem status_of_resolved {store : Store} {dispute : DisputeEvent} {now : Int}
    {status : DisputeStatus} (h : (store.record dispute now).1 = .resolved status) :
    dispute.status = status ∧ dispute.status.isFinal = true := by
  unfold Store.record at h
  split at h
  · split at h <;> cases h
  · next existing hexisting =>
    simp only [Store.applyStatus, hexisting] at h
    split at h
    · by_cases hfinal : dispute.status.isFinal = true
      · rw [Store.transition_of_final _ hfinal] at h
        cases h
        exact ⟨rfl, hfinal⟩
      · unfold Store.transition at h
        split at h
        · split at h <;> cases h
        · rw [if_neg hfinal] at h
          cases h
    · cases h

/-- A revision that resolved its dispute leaves a row that tells how. -/
theorem resolvedBy_of_record {world : World} {dispute : DisputeEvent} {now : Int}
    {status : DisputeStatus} (h : (world.store.record dispute now).1 = .resolved status) :
    Core.ResolvedBy { world.core with disputes := (world.store.record dispute now).2.disputes }
      dispute.disputeId status.resolvedByParties := by
  obtain ⟨hstatus, hfinal⟩ := status_of_resolved h
  obtain ⟨-, -, hnone | ⟨existing, -, -, hsame⟩ | hnewer⟩ := world.store.record_cases dispute now
  · exact absurd h (hnone.2.2.2.2.1 status)
  · rw [hsame] at h
    cases h
  · obtain ⟨existing, hexisting, -, -, -, hrevised, -⟩ := hnewer
    have hid : existing.disputeId = dispute.disputeId := by
      simpa using List.find?_some hexisting
    obtain ⟨i, hi, hrow⟩ := List.mem_iff_getElem.mp (List.mem_of_find?_eq_some hexisting)
    obtain ⟨hlength, hget⟩ := List.forall₂_iff_get.mp hrevised
    have hi' : i < (world.store.record dispute now).2.disputes.length := by
      rw [← hlength]
      exact hi
    have hrevise := hget i hi hi'
    rw [List.get_eq_getElem, List.get_eq_getElem, hrow] at hrevise
    exact ⟨_, List.getElem_mem hi', hrevise.disputeId.trans hid,
      hrevise.resolved hid hfinal, by rw [hrevise.status hid, hstatus]⟩

/-- A revision that resolved its dispute is known to have. -/
theorem learns_record (hfact : (contract deployment condition).Lasting thread anyCall fact)
    {dispute : DisputeEvent} (hpublished : ∀ world, fact world → dispute ∈ world.published)
    (now : Int) :
    (contract deployment condition).Learns thread fact (perform (.record dispute now))
      fun change world => ∀ status, change = .resolved status →
        world.core.ResolvedBy dispute.disputeId status.resolvedByParties := by
  have hneeds : ∀ world, fact world → Needs thread (.record dispute now) world := hpublished
  have hcall : anyCall (Call.record dispute now) := trivial
  refine .perform hfact.rely (fun world _ => hneeds world) ?_
  intro world oracle later hinv hholds hcond hrely _
  refine ⟨hfact.rely (hfact.call hcall hinv (hneeds world hholds) hcond hholds) hrely,
    fun change hresult status heq => ?_⟩
  subst heq
  refine Core.ResolvedBy.mono ?_ hrely.follows.core
  change (performCall deployment thread (.record dispute now) oracle world).1 = _ at hresult
  change (performCall deployment thread (.record dispute now) oracle world).2.core.ResolvedBy _ _
  simp only [performCall, World.orFail] at hresult ⊢
  cases hfails : oracle.fails with
  | some failure =>
    rw [hfails] at hresult
    cases hresult
  | none =>
    rw [hfails] at hresult
    exact resolvedBy_of_record (Except.ok.inj hresult)

/-- Handling a published revision. -/
theorem keeps_handleEvent (hfact : (contract deployment condition).Lasting thread anyCall fact)
    {dispute : DisputeEvent} (hpublished : ∀ world, fact world → dispute ∈ world.published)
    (now : Int) :
    (contract deployment condition).Keeps thread fact (handleEvent deployment dispute now) := by
  refine Spec.Learns.bind _ (learns_record hfact hpublished now) fun change => ?_
  have hresolved : (contract deployment condition).Lasting thread anyCall fun world =>
      ∀ status, change = .resolved status →
        world.core.ResolvedBy dispute.disputeId status.resolvedByParties :=
    lasting_of_follows fun hknown hfollows status heq => (hknown status heq).mono hfollows.core
  have hboth := hfact.and hresolved
  have hside := lasting_aside hboth
  split
  · refine .bind (keeps_notifyNew hboth dispute now) fun notified => ?_
    split
    · exact .bind (.perform hboth trivial fun _ _ _ _ _ _ h => by cases h) fun _ => .done hboth _
    · exact .done hboth _
  · refine .bind (.bind (.perform hboth trivial fun _ _ _ => trivial) fun taking => ?_) fun _ =>
      .bind (keeps_notifySolvers hside _ _ _ _) fun _ => .done hboth _
    split
    · exact .done hboth true
    · exact .perform hside rfl fun _ _ _ => trivial
  · next status =>
    refine .bind (.perform hboth trivial fun world _ hholds id found byParties heq => ?_)
      fun _ => .done hboth _
    cases heq
    exact hholds.2 status rfl
  · exact .done hboth _

/-- The reminders to the solvers. -/
theorem keeps_remind (hfact : (contract deployment condition).Lasting thread anyCall fact)
    (renotifyAfter now : Int) :
    (contract deployment condition).Keeps thread fact
      (remind deployment renotifyAfter now) := by
  have hside := lasting_aside hfact
  refine .bind (.perform hside rfl fun _ _ _ => trivial) fun due => ?_
  refine .forEach hfact fun row _ => ?_
  refine .bind (.perform hside rfl fun _ _ _ => trivial) fun current => ?_
  split
  · exact .done hfact ()
  · refine .bind (keeps_notifySolvers hside _ _ _ _) fun delivered => ?_
    split
    · refine .bind (.perform hfact trivial fun _ _ _ => trivial) fun _ => ?_
      split
      · exact .perform hfact trivial fun _ _ _ _ _ _ h => by cases h
      · exact .done hfact ()
    · exact .done hfact ()

/-- The chats opened again after a restart. -/
theorem keeps_resume (hfact : (contract deployment condition).Lasting thread aside fact) :
    (contract deployment condition).Keeps thread fact resume := by
  refine .bind (.perform hfact rfl fun _ _ _ => trivial) fun live => ?_
  exact .forEach hfact fun session _ => .bind (.attempt (.perform hfact rfl fun _ _ _ => trivial))
    fun _ => .done hfact ()

/-! ## The daemon -/

/-- What a task knows when it starts. -/
def Task.Knows (task : Task) (world : World) : Prop :=
  match task with
  | .handleEvent dispute => dispute ∈ world.published
  | .finish dispute _ byParties => world.core.ResolvedBy dispute byParties
  | _ => True

/-- What a task knew when it started it knows throughout. -/
theorem lasting_knows (task : Task) :
    (contract deployment condition).Lasting thread anyCall task.Knows := by
  refine lasting_of_follows fun hknows hfollows => ?_
  cases task with
  | handleEvent dispute => exact hfollows.core.published.subset hknows
  | finish dispute status byParties => exact Core.ResolvedBy.mono hknows hfollows.core
  | _ => exact trivial

/-- A task starts knowing what it must. -/
theorem knows_of_launch {world world' : World} (h : world.core.Inv)
    (hlaunch : launch thread world = some world') : thread.role.Knows world' := by
  obtain ⟨number, role⟩ := thread
  cases role with
  | handleEvent dispute =>
    simp only [launch] at hlaunch
    split at hlaunch
    · next hmem =>
      cases hlaunch
      exact List.contains_iff_mem.mp hmem
    · cases hlaunch
  | finish dispute status byParties =>
    simp only [launch] at hlaunch
    split at hlaunch
    · next hmem =>
      cases hlaunch
      exact h.closings _ (List.contains_iff_mem.mp hmem) dispute status byParties rfl
    · cases hlaunch
  | _ => exact trivial

/-- **Every task starts safely**: whatever the others do in between, it makes each of its calls with
what the call needs. -/
theorem launches (deployment : Deployment)
    (condition : Condition Call Task Oracle Happening World) :
    (contract deployment condition).Launches := by
  intro thread oracle world world' hinv _ hlaunch
  have hinv' := (launch_stepped hinv hlaunch).inv
  have hknows := knows_of_launch hinv hlaunch
  have hfact : (contract deployment condition).Lasting thread anyCall thread.role.Knows :=
    lasting_knows thread.role
  have htrue : (contract deployment condition).Lasting thread anyCall fun _ => True := .true
  -- What a task knows when it is launched is what its program starts from.
  suffices hkeeps : (contract deployment condition).Keeps thread thread.role.Knows
      (program deployment thread.role) from
    (hkeeps world' hinv' hknows).mono fun _ _ _ _ => trivial
  obtain ⟨number, role⟩ := thread
  cases role with
  | consider dispute =>
    exact .bind (.perform htrue trivial fun _ _ _ => trivial) fun now =>
      .bind (keeps_consider dispute now) fun _ => .done htrue ()
  | judgeChecks started =>
    exact .bind (.perform htrue trivial fun _ _ _ => trivial) fun _ =>
      .bind (.perform htrue trivial fun _ _ _ => trivial) fun now => keeps_reconsider started now
  | turn id => exact keeps_turnLogged hfact id
  | tick =>
    exact .bind (.perform hfact trivial fun _ _ _ => trivial) fun now =>
      .bind (.attempt (keeps_tick hfact now)) fun _ => .perform hfact trivial fun _ _ _ => trivial
  | handleEvent dispute =>
    exact .bind (.perform hfact trivial fun _ _ _ => trivial) fun now =>
      .bind (keeps_handleEvent hfact (fun _ hholds => hholds) now) fun _ => .done hfact ()
  | remind renotifyAfter =>
    exact .bind (.perform hfact trivial fun _ _ _ => trivial) fun now =>
      keeps_remind hfact renotifyAfter now
  | finish dispute status byParties =>
    exact .bind (.perform hfact trivial fun _ _ _ => trivial) fun now =>
      .bind (keeps_finish hfact (fun _ hholds => hholds) status now) fun _ => .done hfact ()
  | finishPending =>
    exact .bind (.perform hfact trivial fun _ _ _ => trivial) fun now =>
      keeps_finishPending hfact _ now
  | resume => exact keeps_resume (lasting_aside hfact)

/-- The invariant of the core holds at the first start. -/
theorem inv_start (clock : Int) : (World.start clock).core.Inv := by
  constructor <;> simp [World.start, World.core, Store.empty, Store.marks]

end Serbero
