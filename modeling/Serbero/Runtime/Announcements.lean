import Serbero.Runtime.Stray
import Serbero.Runtime.Taking

/-! # What an opening announces

An opening ends with what Serbero tells the solvers: that it is mediating, or that it could not
start. The transaction before it may have found the session ended, which nothing looks at. -/

namespace Serbero

open Pool Relation
open Pool.Program

variable {deployment : Deployment} {thread : Thread Task}

/-- Recording the revision ends the live session of its dispute. -/
def World.ends (world : World) (dispute : DisputeEvent) : Bool :=
  ((world.store.dispute dispute.disputeId).any fun row =>
    decide (row.statusAt < dispute.revisionAt)) &&
  (world.store.liveForDispute dispute.disputeId).any fun session =>
    dispute.status.isFinal ||
      (dispute.status == .inProgress && decide (session.openedAt < dispute.revisionAt))

/-- No revision ends a session while the take of its dispute is held, which lasts until the opening
announced how it went; nothing fails between the insertion of a session and the first question; and
no take is claimed on an outdated answer. -/
def undisturbed : Condition Call Task Oracle Happening World where
  call thread request oracle world :=
    match request with
    | .claimTake _ _ _ => upToDate.call thread request oracle world
    | .insertSession _ _ _ _ | .openChat _ => attended.call thread request oracle world
    | .record dispute _ =>
      oracle.fails.isSome || !(world.ownTakes.any fun entry => entry.1 == dispute.disputeId) ||
        !world.ends dispute
    | _ => true
  launch _ _ _ := true
  happen _ _ := true
  restart _ _ := true

/-! ## A session under its opener's eyes -/

/-- The thread holds the take of the dispute, and opened a session of it that is live. -/
structure World.Tends (number : Nat) (dispute : DisputeId) (id : SessionId) (world : World) :
    Prop where
  takes : (dispute, number) ∈ world.ownTakes
  opener : world.openedBy[id]? = some number
  row : ∃ session, world.core.sessions[id]? = some session ∧ session.disputeId = dispute ∧
    session.isLive = true

/-- A live session ends only by a revision that ends the live session of its dispute. -/
theorem record_live {world : World} (h : world.core.Inv) {dispute : DisputeEvent} (now : Int)
    {id : SessionId} {session found : Session}
    (hsession : world.core.sessions[id]? = some session)
    (hfound : (world.store.record dispute now).2.sessions[id]? = some found)
    (hends : session.disputeId = dispute.disputeId → world.ends dispute = false)
    (hlive : session.isLive = true) : found.isLive = true := by
  have hplace : world.store.sessions[id]? = some session := hsession
  have same : world.store.sessions[id]? = some found → found.isLive = true := by
    intro heq
    rw [hplace, Option.some.injEq] at heq
    exact heq ▸ hlive
  obtain ⟨-, -, hnone | hsame | hnewer⟩ := world.store.record_cases dispute now
  · exact same (hnone.2.1 ▸ hfound)
  · obtain ⟨existing, -, -, heq⟩ := hsame
    rw [heq] at hfound
    exact same hfound
  · obtain ⟨existing, hexisting, hnewerAt, -, -, -, hended⟩ := hnewer
    obtain ⟨-, -, hrows⟩ := h.ended rfl hended
    rcases hrows id session found hsession hfound with heq | ⟨hdispute, -, -⟩
    · exact heq ▸ hlive
    · have hnot := hends hdispute
      generalize (world.store.record dispute now).2.sessions = sessions at hended hfound
      cases hended with
      | kept _ => exact same hfound
      | superseded hother hstatus hover =>
        rw [World.ends, hexisting, hother] at hnot
        simp [hnewerAt, hstatus, hover] at hnot
      | closed hother hfinal =>
        rw [World.ends, hexisting, hother] at hnot
        simp [hnewerAt, hfinal] at hnot

namespace World.Tends

variable {world later : World} {number : Nat} {dispute : DisputeId} {id : SessionId}

/-- A step that leaves the take alone, and ends no session whose take is held. -/
theorem advance (h : world.Tends number dispute id) (hfollows : world.Follows later)
    (htakes : (dispute, number) ∈ later.ownTakes)
    (hlive : ∀ session found, world.core.sessions[id]? = some session →
      later.core.sessions[id]? = some found → session.disputeId = dispute →
        session.isLive = true → found.isLive = true) : later.Tends number dispute id := by
  obtain ⟨session, hsession, hdispute, hbefore⟩ := h.row
  obtain ⟨found, hfound, hbecomes, -⟩ := hfollows.core.sessions id session hsession
  exact ⟨htakes, hfollows.core.opener h.opener, found, hfound,
    hbecomes.disputeId.trans hdispute, hlive session found hsession hfound hdispute hbefore⟩

/-- An undisturbed call that leaves the take alone. -/
theorem performCall {β : Type} (h : world.Tends number dispute id) (hinv : world.core.Inv)
    {call : Call β} (hneeds : Needs thread call world) {oracle : Oracle}
    (hcond : undisturbed.call thread call oracle world = true)
    (htakes : (dispute, number) ∈ (performCall deployment thread call oracle world).2.ownTakes) :
    (performCall deployment thread call oracle world).2.Tends number dispute id := by
  refine h.advance (performCall_stepped deployment thread call oracle hinv hneeds).follows htakes ?_
  intro session found hsession hfound hdispute hlive
  by_cases hrecord : call.isRecord = true
  · cases call with
    | record revision now =>
      simp only [Serbero.performCall, World.orFail] at hfound
      split at hfound
      · rw [hsession, Option.some.injEq] at hfound
        exact hfound ▸ hlive
      · next hfails =>
        refine record_live hinv now hsession hfound (fun hsame => ?_) hlive
        -- The take of the revision's dispute is held.
        have hheld : world.ownTakes.any (fun entry => entry.1 == revision.disputeId) = true :=
          List.any_eq_true.mpr ⟨_, h.takes, by simp [← hsame, hdispute]⟩
        change (oracle.fails.isSome ||
          !(world.ownTakes.any fun entry => entry.1 == revision.disputeId) ||
            !world.ends revision) = true at hcond
        rw [hfails, hheld] at hcond
        simpa using hcond
    | _ => cases hrecord
  · exact performCall_live deployment thread call (by simpa using hrecord) oracle hinv hneeds
      hsession hfound hlive

/-- A task that starts leaves the session to its opener. -/
theorem launch (h : world.Tends number dispute id) (hinv : world.core.Inv)
    (hlaunch : launch thread world = some later) : later.Tends number dispute id :=
  have hstepped := launch_stepped hinv hlaunch
  h.advance hstepped.follows ((hstepped.leaves _ fun h => h).core.takes dispute h.takes)
    fun session found hsession hfound _ hlive =>
      (launch_quiet hlaunch).live id session found hsession hfound hlive

/-- What happens outside the tasks leaves the session to its opener. -/
theorem happen {happening : Happening} (h : world.Tends number dispute id)
    (hinv : world.core.Inv) (hhappen : happen deployment happening world = some later) :
    later.Tends number dispute id :=
  have hstepped := happen_stepped hinv hhappen
  h.advance hstepped.follows ((hstepped.leaves _ fun h => h).core.takes dispute h.takes)
    fun session found hsession hfound _ hlive =>
      (happen_quiet hhappen).live id session found hsession hfound hlive

end World.Tends

/-! ## What is known before an announcement -/

/-- The thread's own change of a session of the dispute to active took effect, and nothing ended the
session since. -/
def World.Mediates (number : Nat) (dispute : DisputeId) (id : SessionId) (world : World) : Prop :=
  world.Tends number dispute id ∧ id ∈ world.activated

/-- The thread's own hand-off of a session of the dispute took effect, and nothing ended the session
since, or no session of the dispute was inserted. -/
def World.GaveUp (number : Nat) (dispute : DisputeId) (world : World) : Prop :=
  world.TakesFirst number dispute ∨
    ∃ id, world.Tends number dispute id ∧ (id, .abandon) ∈ world.claims

/-- The transactions that end an opening find its session live, and what is announced after them is
true. A pass of the timers repeats an announcement that could not be sent. -/
def announceExtension (deployment : Deployment) : Extension (contract deployment undisturbed) where
  inv _ := True
  pre thread call world :=
    match call with
    | .activate dispute id _ => world.Tends thread.number dispute id
    | .abandon dispute id _ _ =>
      match id with
      | some id => world.Tends thread.number dispute id
      | none => world.TakesFirst thread.number dispute
    | .sendDm _ dispute notification =>
      (notification = "mediation_started" → ∃ id, world.Mediates thread.number dispute id) ∧
        (notification = "handoff" → thread.role = .tick ∨ world.GaveUp thread.number dispute)
    | .append new =>
      new.kind = .mediationOpened → ∃ id, new.sessionId = some id ∧
        world.Mediates thread.number new.disputeId id
    | _ => True
  rely thread world later :=
    (∀ id, world.TakesFirst thread.number id → later.TakesFirst thread.number id) ∧
      ∀ dispute id, world.Tends thread.number dispute id → later.Tends thread.number dispute id
  rely_refl _ _ := ⟨fun _ h => h, fun _ _ h => h⟩
  rely_trans _ _ h h' :=
    ⟨fun id hfirst => h'.1 id (h.1 id hfirst),
      fun dispute id htends => h'.2 dispute id (h.2 dispute id htends)⟩
  call_inv _ _ _ _ _ := trivial
  call_rely hinv _ hneeds _ hcond hother :=
    ⟨fun _ hfirst => hfirst.performCall hinv _ hneeds hother _,
      fun dispute _ htends => htends.performCall hinv hneeds hcond
        (((performCall_stepped deployment _ _ _ hinv hneeds).leaves _ hother).core.takes dispute
          htends.takes)⟩
  launch_inv _ _ _ _ := trivial
  launch_rely hinv _ _ hlaunch :=
    ⟨fun _ hfirst => hfirst.launch hinv hlaunch, fun _ _ htends => htends.launch hinv hlaunch⟩
  happen_inv _ _ _ _ := trivial
  happen_rely hinv _ _ hhappen :=
    ⟨fun _ hfirst => hfirst.happen hinv hhappen, fun _ _ htends => htends.happen hinv hhappen⟩
  restart_inv _ _ _ := trivial

/-- The call announces nothing about an opening, but for a pass of the timers that repeats that one
could not start, and ends none. -/
def unannounced (thread : Thread Task) {β : Type} : Call β → Prop
  | .activate _ _ _ | .abandon _ _ _ _ => False
  | .sendDm _ _ notification =>
    notification ≠ "mediation_started" ∧ (notification = "handoff" → thread.role = .tick)
  | .append new => new.kind ≠ .mediationOpened
  | _ => True

/-- What is unannounced needs to know nothing. -/
theorem pre_of_unannounced (deployment : Deployment) {β : Type} {call : Call β}
    (h : unannounced thread call) (world : World) : (announceExtension deployment).pre thread call world := by
  cases call with
  | activate dispute id now => exact False.elim h
  | abandon dispute id reason now => exact False.elim h
  | sendDm solver dispute notification =>
    exact ⟨fun hstarted => absurd hstarted h.1, fun hhandoff => Or.inl (h.2 hhandoff)⟩
  | append new => exact fun hopened => absurd hopened h
  | _ => trivial

/-- A notification that announces no start of mediation may be told, and a pass of the timers may
tell a hand-off. -/
theorem tell_unannounced {dispute : DisputeId} {notification : String}
    (hstarted : notification ≠ "mediation_started")
    (hhandoff : notification = "handoff" → thread.role = .tick) :
    MayTell (unannounced thread) dispute notification := by
  intro β call htells
  cases call with
  | sendDm solver about text =>
    obtain ⟨-, rfl⟩ := htells
    exact ⟨hstarted, hhandoff⟩
  | append new =>
    obtain ⟨-, -, solver, hsent | hfailed⟩ := htells
    · exact fun hopened => by rw [hsent] at hopened; cases hopened
    · exact fun hopened => by rw [hfailed] at hopened; cases hopened
  | _ => exact False.elim htells

/-- Briefs are tagged otherwise than the announcements. -/
theorem briefs_unannounced (deployment : Deployment) (thread : Thread Task) :
    AllowsBriefs deployment (unannounced thread) where
  query hquery := by rename_i call; cases call <;> first | exact trivial | cases hquery
  briefs hbriefs := by
    rename_i call
    rcases hbriefs with ⟨dispute, notification, hmem, htells⟩ | hother
    · refine tell_unannounced (fun heq => ?_) (fun heq => ?_) htells
      · rw [heq] at hmem
        exact absurd hmem (by decide)
      · rw [heq] at hmem
        exact absurd hmem (by decide)
    · cases call with
      | append new =>
        rcases hother with ⟨pending, hkind⟩ | ⟨last, hkind⟩
        · exact fun hopened => by rw [hkind] at hopened; cases hopened
        · exact fun hopened => by rw [hkind] at hopened; cases hopened
      | insertEvaluation new => exact trivial
      | _ => exact False.elim hother

/-- What the parties are sent announces nothing to the solvers. -/
theorem send_unannounced {id : SessionId} {party : Party} {template : Template} :
    MaySend deployment (unannounced thread) id party template := by
  intro β call hsends
  cases call <;> first | exact trivial | exact False.elim hsends

/-- Nor does a closing. -/
theorem close_unannounced : MayClose deployment (unannounced thread) where
  lock := trivial
  unlock := trivial
  closeChat _ := trivial
  thank _ _ := send_unannounced
  report _ := tell_unannounced (by decide) fun heq => absurd heq (by decide)
  finished _ _ _ _ := by rintro ⟨⟩

/-- Nor do the notifications of the notifier. -/
theorem notify_unannounced : MayNotify (unannounced thread) where
  tell _ _ hmem := by
    refine tell_unannounced (fun heq => ?_) (fun heq => ?_)
    · rw [heq] at hmem
      exact absurd hmem (by decide)
    · rw [heq] at hmem
      exact absurd hmem (by decide)
  record _ _ := trivial
  markNotified _ _ := trivial
  spawn _ := trivial

/-- Every task that attempts no mediation announces nothing, but for a pass of the timers. -/
theorem runs_unannounced (hother : thread.role.mediates = false) :
    MayRun deployment (unannounced thread) thread.role := by
  obtain ⟨number, role⟩ := thread
  cases role with
  | consider dispute => cases hother
  | judgeChecks started => cases hother
  | turn id =>
    refine ⟨⟨fun _ _ _ => send_unannounced, fun _ => send_unannounced,
      fun _ _ _ => send_unannounced, fun _ => send_unannounced, fun _ _ _ _ _ => trivial,
      fun _ _ _ _ => trivial, fun _ _ _ => trivial, fun _ _ _ => trivial, fun _ _ _ => trivial,
      fun _ _ => trivial, fun _ _ _ _ _ => ?_⟩, fun _ => trivial⟩
    rintro ⟨⟩
  | tick =>
    refine ⟨fun _ => trivial, fun _ _ => send_unannounced, fun _ => ⟨fun _ => send_unannounced,
      fun _ _ _ => send_unannounced, fun _ => send_unannounced⟩, fun _ _ _ => trivial,
      close_unannounced, fun _ => ⟨tell_unannounced (by decide) fun _ => rfl, fun _ => ?_⟩,
      trivial⟩
    rintro ⟨⟩
  | handleEvent dispute => exact notify_unannounced
  | remind renotifyAfter => exact notify_unannounced
  | finish dispute status byParties => exact close_unannounced
  | finishPending => exact close_unannounced
  | resume => exact fun _ => trivial

/-! ## Openings -/

/-- A call that is aside leaves a first take. -/
theorem World.TakesFirst.aside {β : Type} {world : World} {number : Nat} {id : DisputeId}
    (h : world.TakesFirst number id) {call : Call β} (hcall : aside call) (oracle : Oracle) :
    (Serbero.performCall deployment thread call oracle world).2.TakesFirst number id := by
  have hsame := performCall_aside deployment thread hcall oracle world
  refine ⟨hsame.ownTakes ▸ h.1, ?_⟩
  rw [World.Unopened, hsame.sessions]
  exact h.2

/-- A call that is aside leaves a session to its opener. -/
theorem World.Tends.aside {β : Type} {world : World} {number : Nat} {dispute : DisputeId}
    {id : SessionId} (h : world.Tends number dispute id) {call : Call β} (hcall : aside call)
    (oracle : Oracle) :
    (Serbero.performCall deployment thread call oracle world).2.Tends number dispute id := by
  have hsame := performCall_aside deployment thread hcall oracle world
  obtain ⟨session, hsession, hrest⟩ := h.row
  refine ⟨hsame.ownTakes ▸ h.takes, hsame.openedBy ▸ h.opener, session, ?_, hrest⟩
  change (Serbero.performCall deployment thread call oracle world).2.store.sessions[id]? = _
  rw [hsame.sessions]
  exact hsession

/-- The thread opens a session of the dispute. -/
def World.Begins (number : Nat) (dispute : DisputeId) (id : SessionId) (world : World) : Prop :=
  world.Tends number dispute id ∧
    ∃ session, world.core.sessions[id]? = some session ∧ session.state = .opening

/-- What creating a session leaves its thread with, when nothing fails. -/
def Begun (thread : Thread Task) (dispute : DisputeId) (result : Except String Session)
    (world : World) : Prop :=
  match result with
  | .ok session => world.Begins thread.number dispute session.sessionId
  | .error _ => world.TakesFirst thread.number dispute

section

variable {dispute : DisputeId} {id : SessionId}

/-- A first take stays one while others act and its own calls are aside. -/
theorem lasting_takesFirst :
    (announceExtension deployment).news.Lasting thread aside
      (World.TakesFirst thread.number dispute) :=
  ⟨fun hfirst hrely => hrely.2.1 dispute hfirst, fun hcall _ _ _ hfirst => hfirst.aside hcall _⟩

/-- So does an opening that began. -/
theorem lasting_begins :
    (announceExtension deployment).news.Lasting thread aside
      (World.Begins thread.number dispute id) := by
  constructor
  · intro world later ⟨htends, session, hsession, hstate⟩ hrely
    have hlater := hrely.2.2 dispute id htends
    obtain ⟨found, hfound, -, hlive⟩ := hlater.row
    refine ⟨hlater, found, hfound, ?_⟩
    rcases hrely.1.leaves.core.openings id session found htends.opener hsession hstate hfound with
      hopening | hterminal
    · exact hopening
    · rw [Session.isLive, hterminal] at hlive
      cases hlive
  · intro β call oracle world hcall _ _ _ ⟨htends, session, hsession, hstate⟩
    refine ⟨htends.aside hcall oracle, session, ?_, hstate⟩
    have hsame := performCall_aside deployment thread hcall oracle world
    change (performCall deployment thread call oracle world).2.store.sessions[id]? = _
    rw [hsame.sessions]
    exact hsession

/-- So does a mediation that started. -/
theorem lasting_mediates :
    (announceExtension deployment).news.Lasting thread aside
      (World.Mediates thread.number dispute id) := by
  constructor
  · exact fun h hrely => ⟨hrely.2.2 dispute id h.1, hrely.1.follows.log.activated.subset h.2⟩
  · intro β call oracle world hcall _ _ _ h
    have hsame := performCall_aside deployment thread hcall oracle world
    refine ⟨h.1.aside hcall oracle, ?_⟩
    change id ∈ (performCall deployment thread call oracle world).2.activated
    rw [hsame.activated]
    exact h.2

/-- So does an opening given up. -/
theorem lasting_gaveUp :
    (announceExtension deployment).news.Lasting thread aside
      (World.GaveUp thread.number dispute) := by
  constructor
  · rintro world later (hfirst | ⟨id, htends, hclaimed⟩) hrely
    · exact Or.inl (hrely.2.1 dispute hfirst)
    · exact Or.inr ⟨id, hrely.2.2 dispute id htends, hrely.1.follows.core.claims.subset hclaimed⟩
  · rintro β call oracle world hcall - - - (hfirst | ⟨id, htends, hclaimed⟩)
    · exact Or.inl (hfirst.aside hcall oracle)
    · have hsame := performCall_aside deployment thread hcall oracle world
      refine Or.inr ⟨id, htends.aside hcall oracle, ?_⟩
      change _ ∈ (performCall deployment thread call oracle world).2.claims
      rw [hsame.claims]
      exact hclaimed

end

/-- The call is aside and announces nothing. -/
def calm (thread : Thread Task) {β : Type} (call : Call β) : Prop :=
  aside call ∧ unannounced thread call

/-- Briefs and the queries behind them are calm. -/
theorem briefs_calm (deployment : Deployment) (thread : Thread Task) :
    AllowsBriefs deployment (calm thread) where
  query hquery := by
    refine ⟨?_, (briefs_unannounced deployment thread).query hquery⟩
    rename_i call
    cases call <;> first | rfl | cases hquery
  briefs hbriefs := by
    refine ⟨?_, (briefs_unannounced deployment thread).briefs hbriefs⟩
    rename_i call
    rcases hbriefs with ⟨_, _, _, htells⟩ | hother
    · cases call <;> first | rfl | exact False.elim htells
    · cases call <;> first | rfl | exact False.elim hother

/-- A program that is calm keeps what lasts. -/
theorem keeps_of_calm {fact : World → Prop} {α : Type} {program : Daemon α}
    (hfact : (announceExtension deployment).news.Lasting thread aside fact)
    (h : Says deployment thread (calm thread) program) :
    (announceExtension deployment).news.Keeps thread fact program :=
  have hcalm : (announceExtension deployment).news.Lasting thread (calm thread) fact :=
    hfact.of_imp fun hcall => hcall.1
  (Spec.triple_of_makes hcalm (fun hcall _ _ => pre_of_unannounced deployment hcall.2 _) h).consequence
    (fun _ _ hbefore => hbefore) fun _ _ _ hafter => hafter.1

/-- Inserting the first session of a dispute: it is there and opening, or nothing changed. -/
theorem insertSession_begins {world : World} (hinv : world.core.Inv) {dispute : DisputeId}
    (hfirst : world.TakesFirst thread.number dispute) {oracle : Oracle}
    {info : SolverDisputeInfo} {order : OrderEvent} {now : Int}
    (hcond : attended.call thread (.insertSession dispute info order now) oracle world = true) :
    let done := performCall deployment thread (.insertSession dispute info order now) oracle world
    Begun thread dispute done.1 done.2 := by
  -- The first to take a dispute finds no live session of it.
  have hnone : world.store.liveForDispute dispute = none := by
    rw [Store.liveForDispute, List.find?_eq_none]
    intro session hsession
    simp [hfirst.2 session hsession]
  change (oracle.fails.isSome || oracle.breaks.isNone ||
    (world.store.liveForDispute dispute).isSome) = true at hcond
  simp only [performCall, World.orFail]
  split
  · exact hfirst
  · next hfails =>
    unfold World.openSession
    simp only []
    split
    · exact hfirst
    · exact hfirst
    · next store hinsert =>
      unfold Store.insertSession at hinsert
      repeat' split at hinsert
      all_goals cases hinsert
      rw [hfails, hnone] at hcond
      split
      · next hbreaks =>
        rw [hbreaks] at hcond
        exact absurd hcond (by simp)
      -- The new session has the next number, and this thread is its opener.
      · have hlength : world.openedBy.length = world.store.sessions.length := hinv.openers
        have hrow : (world.store.sessions ++ [(openingSession world.store world.clock dispute info
            order now).row])[world.store.sessions.length]? = some (openingSession world.store
              world.clock dispute info order now).row := List.getElem?_concat_length
        refine ⟨⟨hfirst.1, ?_, _, hrow, rfl, rfl⟩, _, hrow, rfl⟩
        change (world.openedBy ++ [thread.number])[world.store.sessions.length]? = _
        rw [← hlength, List.getElem?_concat_length]

/-- Creating the first session of a dispute. -/
theorem createSession_begins (dispute : DisputeId) (info : SolverDisputeInfo) (now : Int) :
    (announceExtension deployment).news.Triple thread (World.TakesFirst thread.number dispute)
      (createSession dispute info now) (Begun thread dispute) := by
  have hfirst : (announceExtension deployment).news.Lasting thread aside
      (World.TakesFirst thread.number dispute) := lasting_takesFirst
  have hbegins : ∀ id, (announceExtension deployment).news.Lasting thread aside
      (World.Begins thread.number dispute id) := fun _ => lasting_begins
  have stable : ∀ {result : Except String Session} {world later : World},
      Begun thread dispute result world → (announceExtension deployment).news.rely thread world
        later → Begun thread dispute result later := by
    intro result world later hbegun hrely
    cases result with
    | ok session => exact (hbegins session.sessionId).rely hbegun hrely
    | error failure => exact hfirst.rely hbegun hrely
  unfold createSession
  split
  · exact fun _ _ hholds _ hrely _ => hfirst.rely hholds hrely
  · refine Spec.Triple.bind _ (Spec.Keeps.perform hfirst rfl fun _ _ _ => trivial) (fun order => ?_)
      fun _ _ _ hholds => hholds
    have hinsert : (announceExtension deployment).news.Triple thread
        (World.TakesFirst thread.number dispute) (perform (.insertSession dispute info order now))
          (Begun thread dispute) := by
      refine .perform hfirst.rely (fun _ _ _ => trivial) ?_
      intro world oracle later hinv hholds hcond hrely _
      exact stable (insertSession_begins hinv.1 hholds hcond) hrely
    refine Spec.Triple.bind _ hinsert (fun session => ?_) fun _ _ _ hmid => hmid
    -- Opening the channels of a session under way does not fail.
    have hchat : (announceExtension deployment).news.Triple thread
        (World.Begins thread.number dispute session.sessionId)
          (perform (.openChat session.sessionId)) fun result =>
            Begun thread dispute (result.map fun _ => session) := by
      refine .perform (hbegins _).rely (fun _ _ _ => trivial) ?_
      intro world oracle later hinv hholds hcond hrely _
      refine stable ?_ hrely
      have hafter := (hbegins session.sessionId).call (show aside (.openChat session.sessionId)
        from rfl) hinv trivial hcond hholds
      obtain ⟨htends, found, hfound, hstate⟩ := hholds
      change ((oracle.fails.isNone && oracle.breaks.isNone) ||
        world.openedBy[session.sessionId]? != some thread.number ||
          !world.isOpening session.sessionId) = true at hcond
      rw [htends.opener, World.isOpening, hinv.1.session_eq, hfound, Option.any_some, hstate]
        at hcond
      have hquiet : oracle.fails = none ∧ oracle.breaks = none := by simpa using hcond
      change World.Begins _ _ _ (world.openChat thread.number oracle session.sessionId).2 at hafter
      change Begun thread dispute
        ((world.openChat thread.number oracle session.sessionId).1.map fun _ => session)
          (world.openChat thread.number oracle session.sessionId).2
      unfold World.openChat at hafter ⊢
      rw [hquiet.1, hquiet.2] at hafter ⊢
      exact hafter
    refine Spec.Triple.bind _ hchat (fun _ => ?_) fun _ _ _ hmid => hmid
    exact fun _ _ hholds _ hrely _ => (hbegins session.sessionId).rely hholds hrely

/-- The call tells the solvers about an opening that is over, or closes its chat. -/
def tellsOf (dispute : DisputeId) (notification : String) {β : Type} : Call β → Prop
  | .sendDm _ about text => about = dispute ∧ text = notification
  | .append new => new.kind ≠ .mediationOpened
  | .closeChat _ => True
  | _ => False

/-- The notification about the dispute may be told, as often as there are solvers. -/
theorem tell_tellsOf {dispute : DisputeId} {notification : String} :
    MayTell (tellsOf dispute notification) dispute notification := by
  intro β call htells
  cases call with
  | sendDm solver about text => exact htells
  | append new =>
    obtain ⟨-, -, solver, hsent | hfailed⟩ := htells
    · exact fun hopened => by rw [hsent] at hopened; cases hopened
    · exact fun hopened => by rw [hfailed] at hopened; cases hopened
  | _ => exact False.elim htells

/-- Telling it leaves the session's row alone. -/
theorem aside_of_tellsOf {dispute : DisputeId} {notification : String} {β : Type} {call : Call β}
    (h : tellsOf dispute notification call) : aside call := by
  cases call <;> first | rfl | exact False.elim h

/-- Telling the solvers that the session is mediated, once it is. -/
theorem keeps_started {dispute : DisputeId} {id : SessionId} (now : Int) :
    (announceExtension deployment).news.Keeps thread (World.Mediates thread.number dispute id)
      (notifySolvers deployment.solvers dispute "mediation_started" now) := by
  have hlasting : (announceExtension deployment).news.Lasting thread
      (tellsOf dispute "mediation_started") (World.Mediates thread.number dispute id) :=
    lasting_mediates.of_imp aside_of_tellsOf
  refine (Spec.triple_of_makes hlasting (fun {_ call _} hcall _ hmediates => ?_)
    (says_notifySolvers tell_tellsOf now)).consequence (fun _ _ hbefore => hbefore)
      fun _ _ _ hafter => hafter.1
  cases call with
  | sendDm solver about text =>
    obtain ⟨rfl, rfl⟩ := hcall
    exact ⟨fun _ => ⟨id, hmediates⟩, fun hhandoff => absurd hhandoff (by decide)⟩
  | append new => exact fun hopened => absurd hopened hcall
  | closeChat id => exact trivial
  | _ => exact False.elim hcall

/-- The end of an opening that reached both parties: the session is mediated, and the solvers are
told. -/
theorem activate_tells {dispute : DisputeId} {session : Session} (now : Int) :
    (announceExtension deployment).news.Triple thread
      (World.Begins thread.number dispute session.sessionId)
      (activate deployment dispute session now) fun _ _ => True := by
  have hbegins : (announceExtension deployment).news.Lasting thread aside
      (World.Begins thread.number dispute session.sessionId) := lasting_begins
  have hmediates : (announceExtension deployment).news.Lasting thread aside
      (World.Mediates thread.number dispute session.sessionId) := lasting_mediates
  have hset : (announceExtension deployment).news.Triple thread
      (World.Begins thread.number dispute session.sessionId)
        (perform (.activate dispute session.sessionId now)) fun result world =>
          result = .ok () → world.Mediates thread.number dispute session.sessionId := by
    refine .perform hbegins.rely (fun _ _ hholds => hholds.1) ?_
    intro world oracle later hinv hholds hcond hrely _ hresult
    refine hmediates.rely ?_ hrely
    -- The task took the dispute and opened this session, so the row it activates is its own.
    obtain ⟨htends, found, hfound, hstate⟩ := hholds
    have hneeds : Needs thread (.activate dispute session.sessionId now) world :=
      ⟨htends.opener, found, hfound, Or.inl hstate⟩
    change World.Mediates _ _ _ (performCall deployment thread
      (.activate dispute session.sessionId now) oracle world).2
    have hafter : (dispute, thread.number) ∈ (performCall deployment thread
        (.activate dispute session.sessionId now) oracle world).2.ownTakes →
          (performCall deployment thread (.activate dispute session.sessionId now) oracle
            world).2.Tends thread.number dispute session.sessionId :=
      htends.performCall hinv.1 hneeds hcond
    change (performCall deployment thread (.activate dispute session.sessionId now) oracle
      world).1 = _ at hresult
    simp only [performCall] at hafter hresult ⊢
    split at hresult
    · cases hresult
    · next hfails =>
      rw [hfails] at hafter
      refine ⟨hafter htends.takes, ?_⟩
      simp only [World.activate]
      rw [hinv.1.session_eq, hfound, Option.any_some, Session.isLive, hstate]
      exact List.mem_append_right _ List.mem_cons_self
  -- Only then is the opening announced to the observers and on record.
  refine Spec.Triple.bind _ hset (fun _ => ?_) fun _ _ _ _ => trivial
  have hopened : (announceExtension deployment).news.Triple thread
      (World.Mediates thread.number dispute session.sessionId)
        (perform (.append ⟨dispute, some session.sessionId, .mediationOpened, now⟩))
          fun _ _ => True :=
    .perform hmediates.rely (fun _ _ hholds _ => ⟨_, rfl, hholds⟩) fun _ _ _ _ _ _ _ _ => trivial
  refine Spec.Triple.bind (fun _ => World.Mediates thread.number dispute session.sessionId)
    ((keeps_started now).consequence (fun _ _ hmid => hmid rfl) fun _ _ _ hafter => hafter)
      (fun _ => ?_) fun _ _ _ _ => trivial
  exact Spec.Triple.bind (fun _ _ => True) hopened (fun _ _ _ _ _ _ _ => trivial)
    fun _ _ _ _ => trivial

/-- What a failed opening knows: it begins a session, or there is none. -/
def Abandons (thread : Thread Task) (dispute : DisputeId) (session : Option Session)
    (world : World) : Prop :=
  match session with
  | some session => world.Begins thread.number dispute session.sessionId
  | none => world.TakesFirst thread.number dispute

/-- The transaction of an opening that failed hands its session off, if there is one. -/
theorem gaveUp_of_abandon {world : World} (hinv : world.core.Inv) {dispute : DisputeId}
    {session : Option Session} (h : Abandons thread dispute session world) {reason : String}
    {now : Int} {oracle : Oracle} (hfails : oracle.fails = none) :
    (performCall deployment thread (.abandon dispute (session.map Session.sessionId) reason now)
      oracle world).2.GaveUp thread.number dispute := by
  cases session with
  | none =>
    refine Or.inl ⟨?_, ?_⟩
    · simp only [performCall, hfails]
      exact h.1
    · obtain ⟨hsessions, -⟩ :=
        Stepped.abandonOpening_spec world.store deployment.observers dispute none reason now
      simp only [performCall, hfails, World.Unopened]
      change ∀ found ∈ (world.store.abandonOpening deployment.observers dispute none reason
        now).sessions, _
      rw [hsessions]
      exact h.2
  | some session =>
    obtain ⟨htends, found, hfound, hstate⟩ := h
    refine Or.inr ⟨session.sessionId, ?_, ?_⟩
    · have hneeds : Needs thread (.abandon dispute (some session.sessionId) reason now) world := by
        intro known hknown
        cases hknown
        exact ⟨htends.opener, found, hfound, Or.inl hstate⟩
      refine htends.performCall hinv hneeds rfl ?_
      simp only [performCall, hfails]
      exact htends.takes
    · -- An opening session is still Serbero's to hand off.
      have hclaimed : (world.store.handOff session.sessionId .openingFailed now).1 = true := by
        refine List.any_eq_true.mpr ⟨found, List.mem_of_getElem? hfound, ?_⟩
        rw [hinv.numbered _ found hfound, hstate]
        simp [SessionState.isMediating]
      simp only [performCall, hfails, World.abandon, Option.map_some, hclaimed, if_pos]
      exact List.mem_append_right _ List.mem_cons_self

/-- Telling the solvers that a mediation could not start, once it is true. -/
theorem keeps_openingNotice {dispute : DisputeId} (now : Int) :
    (announceExtension deployment).news.Keeps thread (World.GaveUp thread.number dispute)
      (sendOpeningNotice deployment dispute now) := by
  have hlasting : (announceExtension deployment).news.Lasting thread (tellsOf dispute "handoff")
      (World.GaveUp thread.number dispute) := lasting_gaveUp.of_imp aside_of_tellsOf
  have hgiveUp : MayGiveUp (tellsOf dispute "handoff") dispute :=
    ⟨tell_tellsOf, fun _ => by rintro ⟨⟩⟩
  refine (Spec.triple_of_makes hlasting (fun {_ call _} hcall _ hgaveUp => ?_)
    (says_sendOpeningNotice hgiveUp now)).consequence (fun _ _ hbefore => hbefore)
      fun _ _ _ hafter => hafter.1
  cases call with
  | sendDm solver about text =>
    obtain ⟨rfl, rfl⟩ := hcall
    exact ⟨fun hstarted => absurd hstarted (by decide), fun _ => Or.inr hgaveUp⟩
  | append new => exact fun hopened => absurd hopened hcall
  | closeChat id => exact trivial
  | _ => exact False.elim hcall

/-- An opening that failed: its session is handed off, if there is one, and the solvers are told. -/
theorem abandon_tells {dispute : DisputeId} (session : Option Session) (reason : String)
    (now : Int) :
    (announceExtension deployment).news.Triple thread (Abandons thread dispute session)
      (abandon deployment dispute session reason now) fun _ _ => True := by
  have hgaveUp : (announceExtension deployment).news.Lasting thread aside
      (World.GaveUp thread.number dispute) := lasting_gaveUp
  have stable : ∀ {world later : World}, Abandons thread dispute session world →
      (announceExtension deployment).news.rely thread world later →
        Abandons thread dispute session later := by
    intro world later habandons hrely
    cases session with
    | none => exact lasting_takesFirst.rely habandons hrely
    | some session => exact lasting_begins.rely habandons hrely
  have hover : (announceExtension deployment).news.Triple thread (Abandons thread dispute session)
      (perform (.abandon dispute (session.map Session.sessionId) reason now)) fun result world =>
        result = .ok () → world.GaveUp thread.number dispute := by
    refine .perform stable (fun _ _ hholds => ?_) ?_
    · cases session with
      | none => exact hholds
      | some session => exact hholds.1
    · intro world oracle later hinv hholds _ hrely _ hresult
      refine hgaveUp.rely (gaveUp_of_abandon hinv.1 hholds ?_) hrely
      change (performCall deployment thread (.abandon dispute (session.map Session.sessionId)
        reason now) oracle world).1 = _ at hresult
      simp only [performCall] at hresult
      split at hresult
      · cases hresult
      · next hfails => exact hfails
  -- The notice to the solvers goes out once the store says the opening was given up.
  refine Spec.Triple.bind _ hover (fun _ => ?_) fun _ _ _ _ => trivial
  have hnotice : (announceExtension deployment).news.Triple thread
      (World.GaveUp thread.number dispute)
        ((sendOpeningNotice deployment dispute now).bind fun _ =>
          (done (.handedOff reason) : Daemon Opening)) fun _ _ => True :=
    Spec.Triple.bind (fun _ _ => True) ((keeps_openingNotice now).consequence
      (fun _ _ hbefore => hbefore) fun _ _ _ _ => trivial) (fun _ _ _ _ _ _ _ => trivial)
        fun _ _ _ _ => trivial
  cases session with
  | none => exact hnotice.consequence (fun _ _ hmid => hmid rfl) fun _ _ _ _ => trivial
  | some session =>
    refine Spec.Triple.bind (fun _ => World.GaveUp thread.number dispute)
      ((Spec.Keeps.perform hgaveUp (show aside (.closeChat session.sessionId) from rfl)
        fun _ _ _ => trivial).consequence (fun _ _ hmid => hmid rfl) fun _ _ _ hafter => hafter)
          (fun _ => hnotice) fun _ _ _ _ => trivial

/-- Knowing nothing, a program that announces nothing. -/
theorem triple_of_unannounced {α : Type} {program : Daemon α}
    (h : Says deployment thread (unannounced thread) program) :
    (announceExtension deployment).news.Triple thread (fun _ => True) program fun _ _ => True := by
  have htrue : (announceExtension deployment).news.Lasting thread (unannounced thread)
      fun _ => True := .true
  exact (Spec.triple_of_makes htrue (fun hcall _ _ => pre_of_unannounced deployment hcall _)
    h).consequence (fun _ _ _ => trivial) fun _ _ _ _ => trivial

/-- What follows a first take announces only what is true. -/
theorem openDispute_tells (dispute : DisputeId) (now : Int) :
    (announceExtension deployment).news.Triple thread (World.TakesFirst thread.number dispute)
      (openDispute deployment dispute now) fun _ _ => True := by
  have hfirst : (announceExtension deployment).news.Lasting thread aside
      (World.TakesFirst thread.number dispute) := lasting_takesFirst
  have htake : (announceExtension deployment).news.Keeps thread
      (World.TakesFirst thread.number dispute) (attempt (perform (.takeDispute dispute))) :=
    .attempt (.perform hfirst rfl fun _ _ _ => trivial)
  -- The node may refuse the dispute: then no session was begun.
  refine Spec.Triple.bind _ htake (fun taken => ?_) fun _ _ _ _ => trivial
  cases taken with
  | error reason =>
    refine (triple_of_unannounced ?_).consequence (fun _ _ _ => trivial) fun _ _ _ _ => trivial
    exact .bind (.perform (by rintro ⟨⟩) fun _ _ => trivial) fun _ _ => trivial
  | ok info =>
    have hcreated : (announceExtension deployment).news.Triple thread
        (World.TakesFirst thread.number dispute)
          (attempt (createSession dispute info now)) fun result world =>
            ∃ inner, result = .ok inner ∧ Begun thread dispute inner world :=
      (createSession_begins dispute info now).attempt fun result _ _ hbegun => ⟨result, rfl, hbegun⟩
    refine Spec.Triple.bind _ hcreated (fun created => ?_) fun _ _ _ _ => trivial
    cases created with
    | error reason =>
      refine (abandon_tells none reason now).consequence (fun _ _ hmid => ?_) fun _ _ _ _ => trivial
      obtain ⟨inner, heq, hbegun⟩ := hmid
      cases heq
      exact hbegun
    | ok session =>
      have hgreet : (announceExtension deployment).news.Keeps thread
          (World.Begins thread.number dispute session.sessionId)
            (attempt (greet deployment session)) := by
        refine .attempt (keeps_of_calm lasting_begins
          (says_greet (briefs_calm deployment thread).reports fun _ _ => ?_))
        intro β call hsends
        refine ⟨?_, send_unannounced hsends⟩
        cases call <;> first | rfl | exact False.elim hsends
      -- A greeting that fails ends in abandoning, one that is sent in activating.
      refine Spec.Triple.bind (fun _ => World.Begins thread.number dispute session.sessionId)
        (hgreet.consequence (fun _ _ hmid => ?_) fun _ _ _ hafter => hafter) (fun greeted => ?_)
          fun _ _ _ _ => trivial
      · obtain ⟨inner, heq, hbegun⟩ := hmid
        cases heq
        exact hbegun
      · cases greeted with
        | error failure => exact abandon_tells (some session) _ now
        | ok _ => exact activate_tells now

/-- An attempt to mediate announces only what is true. -/
theorem consider_tells (dispute : DisputeId) (now : Int) :
    (announceExtension deployment).news.Triple thread (fun _ => True)
      (consider deployment dispute now) fun _ _ => True := by
  have hclaim : (announceExtension deployment).news.Triple thread (fun _ => True) (claim dispute)
      fun result world => result = .ok (.ok ()) → world.TakesFirst thread.number dispute :=
    claim_first (fun hrely => hrely.2.1 dispute) (fun _ _ => trivial) (fun _ _ _ => trivial)
      fun _ _ _ _ hcond => hcond
  refine Spec.Triple.bind (fun result world => ∀ inner, result = .ok inner → inner = .ok (.ok ()) →
    world.TakesFirst thread.number dispute) (hclaim.attempt fun result _ _ hfirst inner heq => by
      cases heq; exact hfirst) (fun verdict => ?_) fun _ _ _ _ => trivial
  match verdict with
  | .error failure => exact fun _ _ _ _ _ _ => trivial
  | .ok (.error reason) => exact fun _ _ _ _ _ _ => trivial
  | .ok (.ok ()) =>
    have hopen : (announceExtension deployment).news.Triple thread
        (World.TakesFirst thread.number dispute) (attempt (openDispute deployment dispute now))
          fun _ _ => True := (openDispute_tells dispute now).attempt fun _ _ _ _ => trivial
    refine Spec.Triple.bind (fun _ _ => True) (hopen.consequence (fun _ _ hmid => hmid _ rfl rfl)
      fun _ _ _ _ => trivial) (fun outcome => triple_of_unannounced ?_) fun _ _ _ _ => trivial
    refine .bind (.perform trivial fun _ _ => trivial) fun _ _ => ?_
    cases outcome <;> exact trivial

/-- Every task announces only what is true about an opening. -/
theorem announce_launches : (announceExtension deployment).contract.Launches := by
  refine Extension.launches (launches deployment undisturbed) ?_
  intro thread oracle world world' hinv _ _ hlaunch
  have hinv' : (announceExtension deployment).news.inv world' :=
    ⟨(launch_stepped hinv hlaunch).inv, trivial⟩
  suffices htask : (announceExtension deployment).news.Triple thread (fun _ => True)
      (program deployment thread.role) fun _ _ => True from htask world' hinv' trivial
  by_cases hmediates : thread.role.mediates = true
  · exact triple_mediates (briefs_unannounced deployment thread) trivial triple_of_unannounced
      consider_tells hmediates
  · exact triple_of_unannounced (says_program (briefs_unannounced deployment thread)
      (runs_unannounced (by simpa using hmediates)))

/-! ## The announcements of a run -/

/-- The call sets the session of the dispute to active, and queues the notice that Serbero mediates
it. -/
def Call.activates (dispute : DisputeId) (id : SessionId) {β : Type} : Call β → Bool
  | .activate about session _ => about == dispute && session == id
  | _ => false

/-- The call tells a solver about the dispute. -/
def Call.notifies (dispute : DisputeId) (notification : String) {β : Type} : Call β → Bool
  | .sendDm _ about text => about == dispute && text == notification
  | _ => false

/-- The call records that a session of the dispute was opened. -/
def Call.recordsOpened (dispute : DisputeId) (id : SessionId) {β : Type} : Call β → Bool
  | .append new =>
    new.disputeId == dispute && new.sessionId == some id && new.kind == .mediationOpened
  | _ => false

/-- The session of the dispute is the thread's own and live: no other solver took it over and nobody
resolved it. -/
def World.OwnLive (number : Nat) (dispute : DisputeId) (id : SessionId) (world : World) : Prop :=
  world.openedBy[id]? = some number ∧ (world.store.session id).any fun session =>
    session.disputeId == dispute && session.isLive

/-- What the openings announce in this state is true. -/
structure Truthful (conf : Conf Call String Task World) : Prop where
  /-- A session is set to active, with the notice to the observers, only while that takes effect. -/
  activating : ∀ number dispute id, conf.standsAt number (Call.activates dispute id) = true →
    conf.world.OwnLive number dispute id
  /-- The solvers are told of a mediation only if the thread's own change to active took effect. -/
  started : ∀ number dispute,
    conf.standsAt number (Call.notifies dispute "mediation_started") = true →
      ∃ id ∈ conf.world.activated, conf.world.OwnLive number dispute id
  /-- The same holds of the record. -/
  opened : ∀ number dispute id, conf.standsAt number (Call.recordsOpened dispute id) = true →
    id ∈ conf.world.activated ∧ conf.world.OwnLive number dispute id
  /-- The solvers are told that a mediation could not start only if the thread's own hand-off took
  effect, or no session was inserted. Passes of the timers come later. -/
  failed : ∀ number dispute, conf.standsAt number (Call.notifies dispute "handoff") = true →
    (conf.threads[number]?).map Prod.fst ≠ some .tick →
      (∀ session ∈ conf.world.store.sessions, session.disputeId ≠ dispute) ∨
        ∃ id, (id, .abandon) ∈ conf.world.claims ∧ conf.world.OwnLive number dispute id

/-- A session that its opener tends is its own and live. -/
theorem World.Tends.ownLive {world : World} {number : Nat} {dispute : DisputeId} {id : SessionId}
    (h : world.Tends number dispute id) (hinv : world.core.Inv) :
    world.OwnLive number dispute id := by
  obtain ⟨session, hsession, hdispute, hlive⟩ := h.row
  refine ⟨h.opener, ?_⟩
  rw [hinv.session_eq, hsession, Option.any_some, hdispute, hlive]
  simp

/-- **Opening announcements tell the truth.** In every state an undisturbed run reaches, whatever
the interleaving of the openings with revisions, everything an opening is about to announce is
true. -/
theorem announcements_truthful {clock : Int} {conf : Conf Call String Task World}
    (hrun : (machine deployment).RunsTo undisturbed (Serbero.start clock) conf) :
    Truthful conf := by
  have hstart : (announceExtension deployment).contract.Kept (Serbero.start clock) :=
    Contract.kept_of_start ⟨inv_start clock, trivial⟩
  have hkept := (hstart.run announce_launches hrun).1
  have hinv : conf.world.core.Inv := hkept.1.1
  refine ⟨fun number dispute id hstands => ?_, fun number dispute hstands => ?_,
    fun number dispute id hstands => ?_, fun number dispute hstands hrole => ?_⟩
  -- A thread that stands before its activation still owns the live session.
  · obtain ⟨role, β, call, hkind, -, -, hneeds⟩ := hkept.pre_of_standsAt hstands
    cases call with
    | activate about session now =>
      obtain ⟨rfl, rfl⟩ : about = dispute ∧ session = id := by
        simpa [Call.activates] using hkind
      exact World.Tends.ownLive hneeds hinv
    | _ => cases hkind
  · obtain ⟨role, β, call, hkind, -, -, hneeds⟩ := hkept.pre_of_standsAt hstands
    cases call with
    | sendDm solver about text =>
      obtain ⟨rfl, rfl⟩ : about = dispute ∧ text = "mediation_started" := by
        simpa [Call.notifies] using hkind
      obtain ⟨id, htends, hactivated⟩ := hneeds.1 rfl
      exact ⟨id, hactivated, htends.ownLive hinv⟩
    | _ => cases hkind
  · obtain ⟨role, β, call, hkind, -, -, hneeds⟩ := hkept.pre_of_standsAt hstands
    cases call with
    | append new =>
      obtain ⟨⟨hdispute, hid⟩, hopened⟩ : (new.disputeId = dispute ∧ new.sessionId = some id) ∧
          new.kind = .mediationOpened := by
        simpa [Call.recordsOpened] using hkind
      obtain ⟨found, hfound, htends, hactivated⟩ := hneeds hopened
      rw [hid, Option.some.injEq] at hfound
      subst hfound
      exact ⟨hactivated, hdispute ▸ htends.ownLive hinv⟩
    | _ => cases hkind
  -- Only a tick hands off a session that another thread opened.
  · obtain ⟨role, β, call, hkind, hthread, -, hneeds⟩ := hkept.pre_of_standsAt hstands
    cases call with
    | sendDm solver about text =>
      obtain ⟨rfl, rfl⟩ : about = dispute ∧ text = "handoff" := by
        simpa [Call.notifies] using hkind
      rcases hneeds.2 rfl with htick | hfirst | ⟨id, htends, hclaimed⟩
      · exact absurd (by rw [hthread, show role = .tick from htick]) hrole
      · exact Or.inl hfirst.2
      · exact Or.inr ⟨id, hclaimed, htends.ownLive hinv⟩
    | _ => cases hkind

/-- The first opening of the example, once both parties are greeted. -/
theorem announcements_truthful_opening :
    Truthful ((machine smallDeployment).after undisturbed (Serbero.start 1000)
      (takenSteps ++ quietly 2 12)) :=
  announcements_truthful ((machine smallDeployment).runsTo_after (by decide +kernel))

/-- Both parties are greeted, and they resolve the dispute before the session is set to active. -/
def announcedSteps : List (Choice Task Oracle Happening) :=
  takenSteps ++ quietly 2 11 ++ closedSteps ++ quietly 2 1

/-- The solvers are told that Serbero mediates a dispute that is resolved. -/
theorem not_announcements_truthful :
    ¬∀ conf, (machine smallDeployment).RunsTo Condition.always (Serbero.start 1000) conf →
      Truthful conf := by
  intro h
  have htruthful := h ((machine smallDeployment).after Condition.always (Serbero.start 1000)
    announcedSteps) ((machine smallDeployment).runsTo_after (by decide +kernel))
  obtain ⟨id, hactivated, -⟩ := htruthful.started 2 1 (by decide +kernel)
  have hnone : ((machine smallDeployment).after Condition.always (Serbero.start 1000)
    announcedSteps).world.activated = [] := by decide +kernel
  rw [hnone] at hactivated
  exact absurd hactivated List.not_mem_nil

end Serbero
