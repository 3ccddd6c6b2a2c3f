import Serbero.Runtime.Traces
import Serbero.Runtime.Vocabulary

/-! # One take at a time

Eligibility reads the store in one section and the takes in flight in another. Between the two, a
take of the same dispute may begin, open its session and be released. -/

namespace Serbero

open Pool Relation
open Pool.Program

variable {deployment : Deployment} {thread : Thread Task}

/-- A session of the dispute was inserted after eligibility read that it never had one. -/
def World.isOutdated (world : World) (id : DisputeId) (hadSession : Bool) : Bool :=
  !hadSession && world.store.existsForDispute id

/-- No take is claimed on an outdated answer: when eligibility has read that a notified dispute never
had a session, none is inserted before it reads the takes in flight, unless one is in flight
then. -/
def upToDate : Condition Call Task Oracle Happening World where
  call := fun _ request _ world =>
    match request with
    | .claimTake id lifecycle hadSession =>
      !world.isOutdated id hadSession || lifecycle != .notified ||
        world.ownTakes.any fun entry => entry.1 == id
    | _ => true
  launch := fun _ _ _ => true
  happen := fun _ _ => true
  restart := fun _ _ => true

/-! ## Sessions of a dispute -/

/-- The dispute never had a session. -/
def World.Unopened (world : World) (id : DisputeId) : Prop :=
  ∀ session ∈ world.store.sessions, session.disputeId ≠ id

/-- A dispute without a session is unopened. -/
theorem unopened_iff (world : World) (id : DisputeId) :
    world.Unopened id ↔ world.store.existsForDispute id = false := by
  simp [World.Unopened, Store.existsForDispute]

/-- A step that inserts no session leaves a dispute without one. -/
theorem World.Unopened.advance {world later : World} {id : DisputeId} (h : world.Unopened id)
    (hinv : world.core.Inv) (hinv' : later.core.Inv) (hfollows : world.Follows later)
    (hopened : later.openedBy = world.openedBy) : later.Unopened id := by
  intro found hfound
  obtain ⟨i, hi⟩ := List.mem_iff_getElem?.mp hfound
  obtain ⟨session, hsession, hbecomes⟩ := exists_before hinv hinv' hfollows hopened hi
  rw [hbecomes.disputeId]
  exact h session (List.mem_of_getElem? hsession)

/-- The call inserts a session. -/
def Call.isInsert {β : Type} : Call β → Bool
  | .insertSession _ _ _ _ => true
  | _ => false

/-- No other call inserts a session. -/
theorem performCall_openedBy (deployment : Deployment) {β : Type} (thread : Thread Task)
    (call : Call β) (hcall : call.isInsert = false) (oracle : Oracle) (world : World) :
    (performCall deployment thread call oracle world).2.openedBy = world.openedBy := by
  have hmakes := performCall_makes deployment thread call oracle world
  generalize (performCall deployment thread call oracle world).2 = later at hmakes ⊢
  cases hmakes with
  | insertSession => cases hcall
  | insertStray => cases hcall
  | _ => rfl

/-- Another thread's call inserts no session of a dispute whose take the thread holds. -/
theorem World.Unopened.performCall {β : Type} {world : World} {id : DisputeId} {number : Nat}
    (h : world.Unopened id) (hinv : world.core.Inv) (hholds : (id, number) ∈ world.ownTakes)
    (call : Call β) (hneeds : Needs thread call world) (hother : number ≠ thread.number)
    (oracle : Oracle) :
    (performCall deployment thread call oracle world).2.Unopened id := by
  have hstepped := performCall_stepped deployment thread call oracle hinv hneeds
  by_cases hinsert : call.isInsert = true
  · cases call with
    | insertSession about info order now =>
      -- Whoever inserts a session holds the take of its dispute, and a take has one holder.
      have hne : about ≠ id := by
        rintro rfl
        have htakes : (world.ownTakes.map Prod.fst).Nodup := hinv.takes
        exact hother (congrArg Prod.snd (List.inj_on_of_nodup_map htakes hholds hneeds rfl))
      have inserted : ∀ later : World, later.store = (world.withSession thread.number
          (openingSession world.store world.clock about info order now).row).store →
            later.Unopened id := by
        intro later hlater session hsession
        rw [hlater] at hsession
        rcases List.mem_append.mp hsession with hold | hnew
        · exact h session hold
        · rw [List.mem_singleton.mp hnew]
          exact hne
      rcases insertSession_cases deployment thread about info order now oracle world with
        hsame | ⟨-, -, ⟨-, hlater⟩ | ⟨-, hlater⟩⟩
      · rw [hsame]
        exact h
      · exact inserted _ (by rw [hlater])
      · refine inserted _ ?_
        rw [hlater]
        unfold World.stray
        split <;> rfl
    | _ => cases hinsert
  · exact h.advance hinv hstepped.inv hstepped.follows
      (performCall_openedBy deployment thread call (by simpa using hinsert) oracle world)

/-! ## What a take knows -/

/-- The thread holds the take of a dispute that never had a session. -/
def World.TakesFirst (number : Nat) (id : DisputeId) (world : World) : Prop :=
  (id, number) ∈ world.ownTakes ∧ world.Unopened id

namespace World.TakesFirst

variable {world later : World} {number : Nat} {id : DisputeId}

/-- Another thread's call leaves a first take. -/
theorem performCall {β : Type} (h : world.TakesFirst number id) (hinv : world.core.Inv)
    (call : Call β) (hneeds : Needs thread call world) (hother : number ≠ thread.number)
    (oracle : Oracle) :
    (performCall deployment thread call oracle world).2.TakesFirst number id :=
  ⟨((performCall_stepped deployment _ _ _ hinv hneeds).leaves _ hother).core.takes id h.1,
    h.2.performCall hinv h.1 _ hneeds hother _⟩

/-- A task that starts leaves a first take. -/
theorem launch (h : world.TakesFirst number id) (hinv : world.core.Inv)
    (hlaunch : launch thread world = some later) : later.TakesFirst number id :=
  have hstepped := launch_stepped hinv hlaunch
  ⟨(hstepped.leaves _ fun h => h).core.takes id h.1,
    h.2.advance hinv hstepped.inv hstepped.follows
      (congrArg Traces.openedBy (launch_quiet hlaunch).traces)⟩

/-- What happens outside the tasks leaves a first take. -/
theorem happen {happening : Happening} (h : world.TakesFirst number id) (hinv : world.core.Inv)
    (hhappen : happen deployment happening world = some later) : later.TakesFirst number id :=
  have hstepped := happen_stepped hinv hhappen
  ⟨(hstepped.leaves _ fun h => h).core.takes id h.1,
    h.2.advance hinv hstepped.inv hstepped.follows
      (congrArg Traces.openedBy (happen_quiet hhappen).traces)⟩

end World.TakesFirst

/-- A take is sent while its dispute is claimed and never had a session, and while it is claimed
nobody else opens one. -/
def takeExtension (deployment : Deployment) : Extension (contract deployment upToDate) where
  inv _ := True
  pre thread call world :=
    match call with
    | .takeDispute id => world.TakesFirst thread.number id
    | _ => True
  rely thread world later :=
    ∀ id, world.TakesFirst thread.number id → later.TakesFirst thread.number id
  rely_refl _ _ _ h := h
  rely_trans _ _ h h' id hfirst := h' id (h id hfirst)
  call_inv _ _ _ _ _ := trivial
  call_rely hinv _ hneeds _ _ hother _ hfirst := hfirst.performCall hinv _ hneeds hother _
  launch_inv _ _ _ _ := trivial
  launch_rely hinv _ _ hlaunch _ hfirst := hfirst.launch hinv hlaunch
  happen_inv _ _ _ _ := trivial
  happen_rely hinv _ _ hhappen _ hfirst := hfirst.happen hinv hhappen
  restart_inv _ _ _ := trivial

/-- The call is no take. -/
def noTake {β : Type} : Call β → Prop
  | .takeDispute _ => False
  | _ => True

/-- Every task but an attempt to mediate sends no take. -/
theorem briefs_noTake (deployment : Deployment) : AllowsBriefs deployment noTake where
  query hquery := by rename_i call; cases call <;> first | exact trivial | cases hquery
  briefs hbriefs := by
    rename_i call
    cases call <;> first | exact trivial | skip
    rcases hbriefs with ⟨_, _, _, htells⟩ | hother
    · exact htells
    · exact hother

/-- What the parties are sent takes no dispute. -/
theorem send_noTake {id : SessionId} {party : Party} {template : Template} :
    MaySend deployment noTake id party template := by
  intro β call hsends
  cases call <;> first | exact trivial | exact hsends

/-- Nor does what the solvers are told. -/
theorem tell_noTake {dispute : DisputeId} {notification : String} :
    MayTell noTake dispute notification := by
  intro β call htells
  cases call <;> first | exact trivial | exact htells

/-- Nor does the opening of a session. -/
theorem open_noTake : MayOpen deployment noTake where
  insert _ _ _ _ := trivial
  openChat _ := trivial
  closeChat _ := trivial
  greet _ _ _ := send_noTake
  abandon _ _ _ _ := trivial
  activate _ _ _ := trivial
  started _ := tell_noTake
  opened _ _ _ := trivial

/-- Nor an opening that is given up. -/
theorem giveUp_noTake (dispute : DisputeId) : MayGiveUp noTake dispute where
  notice := tell_noTake
  sent _ := trivial

/-- Nor a closing. -/
theorem close_noTake : MayClose deployment noTake where
  lock := trivial
  unlock := trivial
  closeChat _ := trivial
  thank _ _ := send_noTake
  report _ := tell_noTake
  finished _ _ _ _ := trivial

/-! ## Attempts to mediate -/

/-- Knowing that it is the first to take the dispute, a program without a take of its own. -/
theorem triple_of_noTake {α : Type} {program : Daemon α}
    (h : Says deployment thread noTake program) :
    (takeExtension deployment).news.Triple thread (fun _ => True) program fun _ _ => True := by
  have htrue : (takeExtension deployment).news.Lasting thread noTake fun _ => True := .true
  refine (Spec.triple_of_makes htrue (fun {_ call _} hcall _ _ => ?_) h).consequence
    (fun _ _ _ => trivial) fun _ _ _ _ => trivial
  cases call <;> first | exact trivial | exact False.elim hcall

/-- A claim that succeeded, and was not made on an outdated answer, is of a dispute that never had a
session. -/
theorem claim_first {condition : Condition Call Task Oracle Happening World}
    {spec : Spec (machine deployment) condition} {dispute : DisputeId}
    (hrely : ∀ {world later}, spec.rely thread world later →
      world.TakesFirst thread.number dispute → later.TakesFirst thread.number dispute)
    (hread : ∀ {α : Type} (query : Store → α) world, spec.pre thread (.read query) world)
    (hclaim : ∀ lifecycle hadSession world,
      spec.pre thread (.claimTake dispute lifecycle hadSession) world)
    (hfresh : ∀ lifecycle hadSession oracle world,
      condition.call thread (.claimTake dispute lifecycle hadSession) oracle world = true →
        upToDate.call thread (.claimTake dispute lifecycle hadSession) oracle world = true) :
    spec.Triple thread (fun _ => True) (claim dispute)
      fun result world => result = .ok (.ok ()) → world.TakesFirst thread.number dispute := by
  refine Spec.Triple.bind (fun _ _ => True) (Spec.Triple.perform (fun _ _ => trivial)
    (fun world _ _ => hread _ world) fun _ _ _ _ _ _ _ _ => trivial) (fun known => ?_)
    fun _ _ _ _ heq => by cases heq
  cases known with
  | none => exact fun _ _ _ _ _ _ heq => by cases heq
  | some known =>
    obtain ⟨lifecycle, hadSession⟩ := known
    refine Spec.Triple.perform (fun _ _ => trivial)
      (fun world _ _ => hclaim lifecycle hadSession world) ?_
    intro world oracle later _ _ hcond hlater _ hresult
    refine hrely hlater ?_
    -- The verdict was read from a fresh row, so the dispute still waits and nobody has it.
    have hfresh := hfresh lifecycle hadSession oracle world hcond
    change (performCall deployment thread (.claimTake dispute lifecycle hadSession) oracle
      world).1 = _ at hresult
    change World.TakesFirst _ _
      (performCall deployment thread (.claimTake dispute lifecycle hadSession) oracle world).2
    simp only [performCall] at hresult ⊢
    split at hresult
    · next hverdict =>
      refine ⟨List.mem_append_right _ List.mem_cons_self, (unopened_iff world dispute).mpr ?_⟩
      obtain ⟨hnotified, hsession⟩ := Candidate.notified_of_ok hverdict
      have htaking := Candidate.taking_of_ok hverdict
      change (!world.isOutdated dispute hadSession || lifecycle != .notified ||
        world.ownTakes.any fun entry => entry.1 == dispute) = true at hfresh
      simp only [] at hnotified hsession htaking
      rw [htaking, hnotified, World.isOutdated, hsession] at hfresh
      simpa using hfresh
    · next hverdict =>
      rw [Except.ok.injEq, hverdict] at hresult
      cases hresult

/-- The task attempts to mediate disputes. -/
def Task.mediates : Task → Bool
  | .consider _ | .judgeChecks _ => true
  | _ => false

/-- The tasks that attempt to mediate are safe when each attempt is. -/
theorem triple_mediates {condition : Condition Call Task Oracle Happening World}
    {spec : Spec (machine deployment) condition} {allowed : {β : Type} → Call β → Prop}
    (hbriefs : AllowsBriefs deployment allowed) (hready : allowed .setReady)
    (hspoken : ∀ {α : Type} {program : Daemon α}, Says deployment thread allowed program →
      spec.Triple thread (fun _ => True) program fun _ _ => True)
    (hconsider : ∀ dispute now,
      spec.Triple thread (fun _ => True) (consider deployment dispute now) fun _ _ => True)
    {task : Task} (hmediates : task.mediates = true) :
    spec.Triple thread (fun _ => True) (program deployment task) fun _ _ => True := by
  have ended : ∀ {α β : Type} {first : Daemon α} {next : α → Daemon β},
      spec.Triple thread (fun _ => True) first (fun _ _ => True) →
        (∀ value, spec.Triple thread (fun _ => True) (next value) fun _ _ => True) →
          spec.Triple thread (fun _ => True) (first.bind next) fun _ _ => True :=
    fun hfirst hnext => Spec.Triple.bind (fun _ _ => True) hfirst hnext fun _ _ _ _ => trivial
  have hattempt : ∀ dispute now, spec.Triple thread (fun _ => True)
      ((consider deployment dispute now).bind fun _ => (done () : Daemon Unit))
        fun _ _ => True :=
    fun dispute now => ended (hconsider dispute now) fun _ => hspoken trivial
  cases task with
  | consider dispute => exact ended (hspoken (says_query hbriefs.reports rfl)) fun now => hattempt dispute now
  | judgeChecks started =>
    refine ended (hspoken (.perform hready fun _ _ => trivial)) fun _ => ?_
    refine ended (hspoken (says_query hbriefs.reports rfl)) fun now => ?_
    refine ended (hspoken (says_attempt (says_query hbriefs.reports rfl))) fun waiting => ?_
    cases waiting with
    | error failure => exact hspoken trivial
    | ok waiting =>
      have hlasting : spec.Lasting thread allowed fun _ => True := .true
      exact Spec.Keeps.forEach hlasting fun row _ => hattempt row.disputeId now
  | _ => cases hmediates

/-- An attempt to mediate takes the dispute only knowing that it is the first. -/
theorem consider_first (dispute : DisputeId) (now : Int) :
    (takeExtension deployment).news.Triple thread (fun _ => True) (consider deployment dispute now)
      fun _ _ => True := by
  refine Spec.Triple.bind (fun result world => ∀ inner, result = .ok inner → inner = .ok (.ok ()) →
    world.TakesFirst thread.number dispute) (Spec.Triple.attempt (claim_first
      (fun hrely => hrely.2 dispute) (fun _ _ => trivial) (fun _ _ _ => trivial)
        fun _ _ _ _ hcond => hcond) fun result _ _ hfirst inner heq => by cases heq; exact hfirst) (fun verdict => ?_)
      fun _ _ _ _ => trivial
  -- Where the claim failed nothing is taken.
  have ended : ∀ {outcome : Opening}, (takeExtension deployment).news.Triple thread (fun world =>
      ∀ inner, Except.ok verdict = (Except.ok inner : Except String _) → inner = .ok (.ok ()) →
        world.TakesFirst thread.number dispute) (done outcome) fun _ _ => True :=
    fun _ _ _ _ _ _ => trivial
  match verdict with
  | .error failure => exact ended
  | .ok (.error reason) => exact ended
  | .ok (.ok ()) =>
    have hopen : (takeExtension deployment).news.Triple thread
        (World.TakesFirst thread.number dispute) (openDispute deployment dispute now)
          fun _ _ => True := by
      have htake : (takeExtension deployment).news.Triple thread
          (World.TakesFirst thread.number dispute) (perform (.takeDispute dispute))
            fun _ _ => True :=
        Spec.Triple.perform (fun hfirst hrely => hrely.2 dispute hfirst) (fun _ _ hfirst => hfirst)
          fun _ _ _ _ _ _ _ _ => trivial
      refine Spec.Triple.bind (fun _ _ => True) (htake.attempt fun _ _ _ _ => trivial)
        (fun taken => ?_) fun _ _ _ _ => trivial
      cases taken with
      | error reason =>
        exact triple_of_noTake (.bind (.perform trivial fun _ _ => trivial) fun _ _ => trivial)
      | ok info =>
        exact triple_of_noTake (says_opening (briefs_noTake deployment).reports open_noTake
          (giveUp_noTake dispute) info now)
    refine Spec.Triple.bind (fun _ _ => True) (Spec.Triple.attempt (hopen.consequence
      (fun _ _ hfirst => hfirst _ rfl rfl) fun _ _ _ hafter => hafter) fun _ _ _ _ => trivial)
      (fun outcome => ?_) fun _ _ _ _ => trivial
    refine triple_of_noTake (.bind (.perform trivial fun _ _ => trivial) fun _ _ => ?_)
    cases outcome <;> exact trivial

/-- Every other task sends no take. -/
theorem runs_noTake {task : Task} (hother : task.mediates = false) :
    MayRun deployment noTake task := by
  cases task with
  | consider dispute => cases hother
  | judgeChecks started => cases hother
  | turn id =>
    exact ⟨⟨fun _ _ _ => send_noTake, fun _ => send_noTake, fun _ _ _ => send_noTake,
      fun _ => send_noTake, fun _ _ _ _ _ => trivial, fun _ _ _ _ => trivial,
      fun _ _ _ => trivial, fun _ _ _ => trivial, fun _ _ _ => trivial, fun _ _ => trivial,
      fun _ _ _ _ _ => trivial⟩, fun _ => trivial⟩
  | tick =>
    exact ⟨fun _ => trivial, fun _ _ => send_noTake, fun _ => ⟨fun _ => send_noTake,
      fun _ _ _ => send_noTake, fun _ => send_noTake⟩, fun _ _ _ => trivial, close_noTake,
      giveUp_noTake, trivial⟩
  | handleEvent dispute =>
    exact ⟨fun _ _ _ => tell_noTake, fun _ _ => trivial, fun _ _ => trivial, fun _ => trivial⟩
  | remind renotifyAfter =>
    exact ⟨fun _ _ _ => tell_noTake, fun _ _ => trivial, fun _ _ => trivial, fun _ => trivial⟩
  | finish dispute status byParties => exact close_noTake
  | finishPending => exact close_noTake
  | resume => exact fun _ => trivial

/-- Every task sends its takes knowing what they need. -/
theorem take_launches : (takeExtension deployment).contract.Launches := by
  refine Extension.launches (launches deployment upToDate) ?_
  intro thread oracle world world' hinv _ _ hlaunch
  have hinv' : (takeExtension deployment).news.inv world' :=
    ⟨(launch_stepped hinv hlaunch).inv, trivial⟩
  suffices htask : (takeExtension deployment).news.Triple thread (fun _ => True)
      (program deployment thread.role) fun _ _ => True from htask world' hinv' trivial
  by_cases hmediates : thread.role.mediates = true
  · exact triple_mediates (briefs_noTake deployment) trivial triple_of_noTake consider_first
      hmediates
  · exact triple_of_noTake (says_program (briefs_noTake deployment)
      (runs_noTake (by simpa using hmediates)))

/-! ## Takes in flight -/

/-- The call is a take of the dispute. -/
def Call.takes (id : DisputeId) {β : Type} : Call β → Bool
  | .takeDispute about => about == id
  | _ => false

/-- The thread waits for the answer to its take of the dispute. -/
def takesNow (conf : Conf Call String Task World) (number : Nat) (id : DisputeId) : Bool :=
  conf.standsAt number (Call.takes id)

/-- **One take at a time.** In every run that claims no take on an outdated answer, whatever the
interleaving of the attempts to mediate: at most one take of a dispute is in flight, and none is once
a session of the dispute was inserted. -/
theorem one_take_at_a_time {clock : Int} {conf : Conf Call String Task World}
    (hrun : (machine deployment).RunsTo upToDate (Serbero.start clock) conf) :
    ∀ id first, takesNow conf first id = true →
      (∀ second, takesNow conf second id = true → second = first) ∧
        ∀ session ∈ conf.world.store.sessions, session.disputeId ≠ id := by
  have hstart : (takeExtension deployment).contract.Kept (Serbero.start clock) :=
    Contract.kept_of_start ⟨inv_start clock, trivial⟩
  have hkept := (hstart.run take_launches hrun).1
  have known : ∀ {id number}, takesNow conf number id = true →
      conf.world.TakesFirst number id := by
    intro id number hstands
    obtain ⟨role, β, call, htakes, -, -, hneeds⟩ := hkept.pre_of_standsAt hstands
    cases call with
    | takeDispute about => exact eq_of_beq htakes ▸ hneeds
    | _ => cases htakes
  intro id first hfirst
  obtain ⟨hholds, hunopened⟩ := known hfirst
  refine ⟨fun second hsecond => ?_, hunopened⟩
  have htakes : (conf.world.ownTakes.map Prod.fst).Nodup := hkept.1.1.takes
  exact congrArg Prod.snd (List.inj_on_of_nodup_map htakes (known hsecond).1 hholds rfl)

/-- Two attempts to mediate one dispute: the second one finds the take of the first in flight. -/
def competingSteps : List (Choice Task Oracle Happening) :=
  let dispute : DisputeEvent := ⟨1, .buyer, .initiated, 100, 0, false⟩
  [.happen (.publish dispute), .launch (.judgeChecks 0) .quiet] ++ quietly 0 1 ++
    [.launch (.handleEvent dispute) .quiet] ++ quietly 1 6 ++ quietly 0 3 ++
    [.launch (.consider 1) .quiet] ++ quietly 2 3

/-- Two attempts at one dispute, of which one takes it. -/
theorem one_take_at_a_time_competing :
    let conf := (machine smallDeployment).after upToDate (Serbero.start 1000)
      (competingSteps ++ quietly 0 1)
    ∀ id first, takesNow conf first id = true →
      (∀ second, takesNow conf second id = true → second = first) ∧
        ∀ session ∈ conf.world.store.sessions, session.disputeId ≠ id :=
  one_take_at_a_time ((machine smallDeployment).runsTo_after (by decide +kernel))

/-- The first attempt is over before the second one, which read the store before, claims its
take. -/
def outdatedSteps : List (Choice Task Oracle Happening) :=
  competingSteps ++
    [.run 2 { Oracle.quiet with take := .took .buyer 200 ⟨some "b", some "s", 40, "SEPA"⟩ }] ++
    quietly 2 16 ++ quietly 0 1

/-- A take is sent of a dispute whose session was opened. -/
theorem not_one_take_at_a_time :
    ¬∀ conf, (machine smallDeployment).RunsTo Condition.always (Serbero.start 1000) conf →
      ∀ id first, takesNow conf first id = true →
        (∀ second, takesNow conf second id = true → second = first) ∧
          ∀ session ∈ conf.world.store.sessions, session.disputeId ≠ id := by
  intro h
  have hnone := (h ((machine smallDeployment).after Condition.always (Serbero.start 1000)
    outdatedSteps) ((machine smallDeployment).runsTo_after (by decide +kernel)) 1 0
      (by decide +kernel)).2
  revert hnone
  decide +kernel

end Serbero
