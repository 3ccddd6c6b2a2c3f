import Serbero.Runtime.Finish

/-! # Closings over whole runs

Whatever the interleaving of the closings with everything else, and wherever a closing stops: what
it sends goes out once, and nothing after it is finished. -/

namespace Serbero

open Pool Relation
open Pool.Program

variable {deployment : Deployment} {hdistinct : deployment.DistinctThanks} {thread : Thread Task}

/-! ## Everything else -/

/-- The call belongs to no closing. -/
def aloof (deployment : Deployment) {β : Type} (call : Call β) : Prop :=
  match call with
  | .lockFinishing | .unlockFinishing => False
  | .gate _ message | .sendEvent message => message.template ≠ .resolvedThanks
  | .insertMessage new => ∃ template, new.templateId = some template ∧
      new.innerEventId = .serbero new.createdAt new.content ∧
        Rendered deployment template new.content ∧ template ≠ .resolvedThanks
  | .sendDm _ _ notification => notification ≠ "final_report"
  | .append new => new.kind.isOther = true
  | _ => True

/-- A call of no closing needs nothing. -/
theorem settles_of_aloof {β : Type} {call : Call β} (h : aloof deployment call) (world : World) :
    Settles deployment thread call world := by
  cases call with
  | lockFinishing => exact h.elim
  | unlockFinishing => exact h.elim
  | gate rule message => exact fun hthanks => absurd hthanks h
  | sendEvent message => exact fun hthanks => absurd hthanks h
  | insertMessage new =>
    obtain ⟨template, htemplate, hinner, hrendered, hother⟩ := h
    exact ⟨template, htemplate, hinner, hrendered, fun hthanks => absurd hthanks hother⟩
  | sendDm solver dispute notification => exact fun hreport => absurd hreport h
  | append new =>
    have hkind : (!new.kind.isReport && !new.kind.isFinish) = true := h
    rw [Bool.and_eq_true, Bool.not_eq_true', Bool.not_eq_true'] at hkind
    constructor
    · intro hreport
      rw [hkind.1] at hreport
      cases hreport
    · intro hfinish
      rw [hkind.2] at hfinish
      cases hfinish
  | _ => exact trivial

/-- Another template than the closing thanks may be written. -/
theorem send_aloof {id : SessionId} {party : Party} {template : Template}
    (hother : template ≠ .resolvedThanks) :
    MaySend deployment (aloof deployment) id party template := by
  intro β call hsends
  cases call with
  | gate rule message =>
    rw [show message = _ from hsends]
    exact hother
  | sendEvent message =>
    rw [show message = _ from hsends]
    exact hother
  | insertMessage new =>
    obtain ⟨-, -, -, htemplate, hinner, hrendered⟩ := hsends
    exact ⟨template, htemplate, hinner, hrendered, hother⟩
  | _ => exact False.elim hsends

/-- Another notification than the final report may be told. -/
theorem tell_aloof {dispute : DisputeId} {notification : String}
    (hother : notification ≠ "final_report") :
    MayTell (aloof deployment) dispute notification := by
  intro β call htells
  cases call with
  | sendDm solver about text =>
    rw [aloof, htells.2]
    exact hother
  | append new =>
    obtain ⟨-, -, solver, hkind | hkind⟩ := htells
    · rw [aloof, hkind]
      simp [EventKind.isOther, EventKind.isReport, EventKind.isFinish, hother]
    · rw [aloof, hkind]
      rfl
  | _ => exact False.elim htells

/-- Briefs and the queries behind them belong to no closing. -/
theorem briefs_aloof (deployment : Deployment) :
    AllowsBriefs deployment (aloof deployment) where
  query {_ call} hquery := by cases call <;> first | exact trivial | cases hquery
  briefs {_ call} hbriefs := by
    rcases hbriefs with ⟨dispute, notification, hmem, htells⟩ | hbriefs
    · refine tell_aloof (fun hreport => ?_) htells
      rw [hreport] at hmem
      exact absurd hmem (by decide)
    · cases call with
      | append new =>
        rcases hbriefs with ⟨pending, hkind⟩ | ⟨last, hkind⟩
        · rw [aloof, hkind]
          rfl
        · rw [aloof, hkind]
          rfl
      | insertEvaluation new => exact trivial
      | _ => exact False.elim hbriefs

/-- The task closes disputes. -/
def Task.closes : Task → Bool
  | .tick | .finish _ _ _ | .finishPending => true
  | _ => false

/-- The guides are no thanks. -/
theorem guide_aloof (id : SessionId) : MayGuide deployment (aloof deployment) id := by
  intro path entry hentry
  refine send_aloof fun hthanks => ?_
  cases path <;> simp [guides] at hentry <;> rcases hentry with rfl | rfl <;> cases hthanks

/-- Nor is what the timers send. -/
theorem time_aloof (id : SessionId) : MayTime deployment (aloof deployment) id :=
  ⟨fun _ => send_aloof (by decide), guide_aloof id, fun _ => send_aloof (by decide)⟩

/-- An opening given up belongs to no closing. -/
theorem giveUp_aloof (dispute : DisputeId) : MayGiveUp (aloof deployment) dispute :=
  ⟨tell_aloof (by decide), fun _ => rfl⟩

/-- Nor do the notifications of the notifier. -/
theorem notify_aloof : MayNotify (aloof deployment) where
  tell dispute notification hmem := by
    refine tell_aloof fun hreport => ?_
    rw [hreport] at hmem
    exact absurd hmem (by decide)
  record _ _ := trivial
  markNotified _ _ := trivial
  spawn _ := trivial

/-- Nor does the opening of a dispute. -/
theorem consider_aloof : MayConsider deployment (aloof deployment) where
  insert _ _ _ _ := trivial
  openChat _ := trivial
  closeChat _ := trivial
  greet id opener hopener := by
    refine send_aloof fun hthanks => ?_
    simp only [openers, List.mem_cons, List.not_mem_nil, or_false] at hopener
    rcases hopener with rfl | rfl <;> cases hthanks
  abandon _ _ _ _ := trivial
  activate _ _ _ := trivial
  started _ := tell_aloof (by decide)
  opened _ _ _ := rfl
  giveUp := giveUp_aloof
  claim _ _ _ := trivial
  take _ := trivial
  notOpened _ _ _ := rfl
  release _ := trivial

/-- Every other task leaves the closings alone. -/
theorem runs_aloof {task : Task} (hother : task.closes = false) :
    MayRun deployment (aloof deployment) task := by
  cases task with
  | consider dispute => exact consider_aloof
  | judgeChecks started => exact ⟨consider_aloof, trivial⟩
  | turn id =>
    have hask : ∀ (party : Party) template, template.isAsked = true →
        MaySend deployment (aloof deployment) id party template := by
      intro party template hasked
      refine send_aloof fun hthanks => ?_
      rw [hthanks] at hasked
      exact absurd hasked (by decide)
    exact ⟨⟨hask, fun _ => send_aloof (by decide), guide_aloof id, fun _ => send_aloof (by decide),
      fun _ _ _ _ _ => trivial, fun _ _ _ _ => trivial, fun _ _ _ => trivial,
      fun _ _ _ => trivial, fun _ _ _ => trivial, fun _ _ => trivial, fun _ _ _ _ _ => rfl⟩,
      fun _ => trivial⟩
  | handleEvent dispute => exact notify_aloof
  | remind renotifyAfter => exact notify_aloof
  | resume => exact fun _ => trivial
  | _ => cases hother

/-- A program that belongs to no closing. -/
theorem triple_of_aloof {α : Type} {program : Daemon α}
    (h : Says deployment thread (aloof deployment) program) :
    (closeExtension deployment hdistinct).news.Triple thread (fun _ => True) program
      fun _ _ => True := by
  have htrue : (closeExtension deployment hdistinct).news.Lasting thread (aloof deployment)
      fun _ => True := .true
  exact (Spec.triple_of_makes htrue (fun hcall _ _ => settles_of_aloof hcall _) h).consequence
    (fun _ _ _ => trivial) fun _ _ _ _ => trivial

/-! ## Closings -/

/-- A closing takes the lock, and gives it back with nothing left to be stored. -/
theorem finish_spec (dispute : DisputeId) (status : DisputeStatus) (byParties : Bool) (now : Int) :
    (closeExtension deployment hdistinct).news.Triple thread
      (fun world => world.core.ResolvedBy dispute byParties)
      (finish deployment dispute status byParties now) fun _ _ => True := by
  let begun := fun world : World =>
    world.Closes thread.number ∧ world.core.ResolvedBy dispute byParties
  have hlock : (closeExtension deployment hdistinct).news.Triple thread
      (fun world => world.core.ResolvedBy dispute byParties) (perform .lockFinishing)
      fun _ => begun := by
    refine .perform (fun h hrely => h.mono hrely.1.follows.core) (fun _ _ _ => trivial) ?_
    intro world oracle later hinv h hcond hrely _
    obtain ⟨-, henabled⟩ : accounted.call thread .lockFinishing oracle world = true ∧
        callEnabled .lockFinishing world = true := Bool.and_eq_true_iff.mp hcond
    have hfree : world.finishing = none := by simpa [callEnabled] using henabled
    have hcloses := (hinv.2.lockFinishing thread oracle hfree).2
    exact ⟨lasts_closes hcloses (hrely.2 hcloses.holds) hrely.1.follows.core,
      Core.ResolvedBy.mono h hrely.1.follows.core⟩
  have hunlock : (closeExtension deployment hdistinct).news.Triple thread
      (World.Closes thread.number) (perform .unlockFinishing) fun _ _ => True :=
    .perform (fun h hrely => lasts_closes h (hrely.2 h.holds) hrely.1.follows.core)
      (fun _ _ h => h) fun _ _ _ _ _ _ _ _ => trivial
  refine Spec.Triple.bind _ hlock (fun _ => ?_) fun _ _ _ _ => trivial
  refine Spec.Triple.attempt_bind (closeResolved_spec dispute status byParties now) fun result => ?_
  refine Spec.Triple.bind _ hunlock (fun _ => ?_) fun _ _ _ _ => trivial
  cases result <;> exact fun _ _ _ _ _ _ => trivial

/-- The call is one that a closing makes. -/
def closes {β : Type} (call : Call β) : Prop :=
  match call with
  | .lockFinishing | .unlockFinishing => True
  | call => aside call

/-- What a closing reads, and what it tells, is among its calls. -/
theorem briefs_closes (deployment : Deployment) :
    AllowsBriefs deployment fun {_} call => closes call where
  query {_ call} hquery := by cases call <;> first | exact rfl | cases hquery
  briefs {_ call} hbriefs := by
    rcases hbriefs with ⟨dispute, notification, -, htells⟩ | hbriefs
    · cases call <;> first | exact rfl | exact False.elim htells
    · cases call <;> first | exact rfl | exact False.elim hbriefs

/-- So is all that it does. -/
theorem close_closes : MayClose deployment fun {_} call => closes call where
  lock := trivial
  unlock := trivial
  closeChat _ := rfl
  thank _ _ {_ call} hsends := by cases call <;> first | exact rfl | exact False.elim hsends
  report _ {_ call} htells := by cases call <;> first | exact rfl | exact False.elim htells
  finished _ _ _ _ := rfl

/-- A closing leaves the disputes. -/
theorem disputes_of_closes {β : Type} {call : Call β} (h : closes call) (oracle : Oracle)
    (world : World) :
    (performCall deployment thread call oracle world).2.core.disputes = world.core.disputes := by
  cases call with
  | lockFinishing => rfl
  | unlockFinishing => rfl
  | _ => exact (performCall_aside deployment thread h oracle world).disputes

/-- Closing what is pending. -/
theorem finishPending_spec (since now : Int) :
    (closeExtension deployment hdistinct).news.Triple thread (fun _ => True)
      (finishPending deployment since now) fun _ _ => True := by
  let known := fun (pending : List Resolution) (world : World) => ∀ resolution ∈ pending,
    world.core.ResolvedBy resolution.disputeId resolution.byParties
  -- A resolution on record stays on record, so the list remains true while it is worked off.
  have hknown : ∀ pending, (closeExtension deployment hdistinct).news.Lasting thread
      (fun {_} call => closes call) (known pending) := by
    intro pending
    refine ⟨fun h hrely resolution hmem => (h resolution hmem).mono hrely.1.follows.core, ?_⟩
    intro β call oracle world hcall _ _ _ h resolution hmem
    obtain ⟨row, hrow, hresolved⟩ := h resolution hmem
    refine ⟨row, ?_, hresolved⟩
    change row ∈ (performCall deployment thread call oracle world).2.core.disputes
    rw [disputes_of_closes hcall]
    exact hrow
  have hread : (closeExtension deployment hdistinct).news.Triple thread (fun _ => True)
      (perform (.read fun store => store.unfinishedResolutions since))
      fun result world => ∀ pending, result = .ok pending → known pending world := by
    refine .perform (fun _ _ => trivial) (fun _ _ _ => trivial) ?_
    intro world oracle later hinv _ _ hrely _ pending heq resolution hmem
    have hsame : (performCall deployment thread
        (.read fun store => store.unfinishedResolutions since) oracle world).2.core =
          world.core := by
      simp only [performCall, World.orFail]
      split <;> rfl
    have hvalue : pending = world.store.unfinishedResolutions since := by
      change (performCall deployment thread
        (.read fun store => store.unfinishedResolutions since) oracle world).1 = _ at heq
      simp only [performCall, World.orFail] at heq
      split at heq
      · cases heq
      · exact (Except.ok.inj heq).symm
    rw [hvalue] at hmem
    have hbefore := resolvedBy_of_unfinished hinv.1 hmem
    rw [← hsame] at hbefore
    exact hbefore.mono hrely.1.follows.core
  refine Spec.Triple.attempt_bind hread fun result => ?_
  cases result with
  | error failure => exact fun _ _ _ _ _ _ => trivial
  | ok pending =>
    -- A resolution whose finish fails is left to the next start; the loop goes on.
    have hloop : (closeExtension deployment hdistinct).news.Keeps thread (known pending)
        (forEach (fun resolution : Resolution => do
          let _ ← attempt (finish deployment resolution.disputeId resolution.status
            resolution.byParties now)) pending) := by
      refine .forEach (hknown pending) fun resolution hmem => ?_
      have hframed := Spec.Triple.frame (hknown pending)
        (says_finish (briefs_closes deployment).reports close_closes.finishes resolution.disputeId resolution.status
          resolution.byParties now) (finish_spec resolution.disputeId resolution.status
            resolution.byParties now)
      refine Spec.Triple.attempt_bind (hframed.consequence (fun world _ h => ⟨h resolution hmem, h⟩)
        fun _ _ _ h => h.2) fun _ => ?_
      exact Spec.Keeps.done (hknown pending) ()
    exact hloop.consequence (fun world _ h => h pending rfl) fun _ _ _ _ => trivial

/-! ## The tasks -/

/-- A pass of the timers closes what is pending, between steps that belong to no closing. -/
theorem tick_spec (now : Int) :
    (closeExtension deployment hdistinct).news.Triple thread (fun _ => True)
      (tick deployment now) fun _ _ => True := by
  have ended : ∀ {α β : Type} {first : Daemon α} {next : α → Daemon β},
      (closeExtension deployment hdistinct).news.Triple thread (fun _ => True) first
        (fun _ _ => True) →
      (∀ value, (closeExtension deployment hdistinct).news.Triple thread (fun _ => True)
        (next value) fun _ _ => True) →
      (closeExtension deployment hdistinct).news.Triple thread (fun _ => True) (first.bind next)
        fun _ _ => True :=
    fun hfirst hnext => Spec.Triple.bind (fun _ _ => True) hfirst hnext fun _ _ _ _ => trivial
  have hbriefs := briefs_aloof deployment
  refine ended (triple_of_aloof (says_query hbriefs.reports rfl)) fun live => ?_
  refine ended (triple_of_aloof (.forEach fun session _ => ?_)) fun _ => ?_
  · exact says_tickLive hbriefs (fun _ => trivial) (fun _ => send_aloof (by decide))
      (time_aloof session.sessionId) (fun _ _ _ => trivial) now
  refine ended (finishPending_spec _ now) fun _ => ?_
  exact triple_of_aloof (says_retryOpeningNotices hbriefs.reports giveUp_aloof now)

/-- **Every task keeps the closings.** -/
theorem close_launches (deployment : Deployment) (hdistinct : deployment.DistinctThanks) :
    (closeExtension deployment hdistinct).contract.Launches := by
  refine Extension.launches (launches deployment _) ?_
  intro thread oracle world world' hinv hcloses hcond hlaunch
  have hinv' : (closeExtension deployment hdistinct).news.inv world' :=
    ⟨(launch_stepped hinv hlaunch).inv, (launch_accounts hinv hcloses hlaunch).1⟩
  have hknows := knows_of_launch hinv hlaunch
  suffices htask : (closeExtension deployment hdistinct).news.Triple thread thread.role.Knows
      (program deployment thread.role) fun _ _ => True from htask world' hinv' hknows
  obtain ⟨number, role⟩ := thread
  by_cases hclosing : role.closes = true
  · cases role with
    | tick =>
      refine Spec.Triple.bind (fun _ _ => True) (triple_of_aloof (says_query
        (briefs_aloof deployment).reports rfl)) (fun now => ?_) fun _ _ _ _ => trivial
      refine Spec.Triple.attempt_bind (tick_spec now) fun _ => ?_
      exact triple_of_aloof (.perform trivial fun _ _ => trivial)
    | finish dispute status byParties =>
      -- The resolution a task is given stays on record while it reads the clock.
      have hnow : (closeExtension deployment hdistinct).news.Triple
          ⟨number, .finish dispute status byParties⟩
          (fun world => world.core.ResolvedBy dispute byParties) (perform .now)
          fun _ world => world.core.ResolvedBy dispute byParties :=
        .perform (fun h hrely => h.mono hrely.1.follows.core) (fun _ _ _ => trivial)
          fun world oracle later _ h _ hrely _ => Core.ResolvedBy.mono h hrely.1.follows.core
      refine Spec.Triple.bind _ hnow (fun now => ?_) fun _ _ _ _ => trivial
      exact Spec.Triple.bind (fun _ _ => True) (finish_spec dispute status byParties now)
        (fun _ _ _ _ _ _ _ => trivial) fun _ _ _ _ => trivial
    | finishPending =>
      refine Spec.Triple.bind (fun _ _ => True) (triple_of_aloof (says_query
        (briefs_aloof deployment).reports rfl)) (fun now => ?_) fun _ _ _ _ => trivial
      exact finishPending_spec _ now
    | _ => cases hclosing
  · exact (triple_of_aloof (says_program (briefs_aloof deployment)
      (runs_aloof (by simpa using hclosing)))).consequence (fun _ _ _ => trivial) fun _ _ _ h => h

/-- Nothing is left from before the first task. -/
theorem accounts_start (deployment : Deployment) (clock : Int) :
    (World.start clock).Accounts deployment := by
  constructor <;> simp [World.start, Store.empty]

/-! ## Runs -/

/-- The session ended this way. -/
def World.Ended (world : World) (id : SessionId) (ended : Outcome) : Prop :=
  ∃ session byParties, world.store.session id = some session ∧
    world.core.ResolvedBy session.disputeId byParties ∧ outcome session byParties = ended

/-- What was closed was closed once. -/
structure World.ClosedOnce (world : World) : Prop where
  /-- A party is thanked once at most, and only when the outcome is self-resolved. -/
  thanksOnce : ∀ id party, world.sent.count (thanksTo id party) ≤ 1
  thanked : ∀ id party, thanksTo id party ∈ world.sent → world.Ended id .selfResolved
  /-- The final report of a dispute is delivered in one closing. -/
  reportOnce : ∀ told ∈ world.told, ∀ other ∈ world.told, told.notification = "final_report" →
    other.notification = "final_report" → told.disputeId = other.disputeId →
      told.closing = other.closing
  finishedOnce : ∀ id, world.store.events.countP (fun event =>
    event.disputeId == id && event.kind.isFinish) ≤ 1
  /-- A closing is finished once a solver got the report and, if its session was self-resolved, both
  parties were thanked. -/
  finished : ∀ event ∈ world.store.events, event.kind.isFinish = true →
    world.ReportTold event.disputeId ∧ ∃ id, event.sessionId = some id ∧
      (world.Ended id .selfResolved → ∀ party, thanksTo id party ∈ world.sent)

/-- The account of the closings says that each happened once. -/
theorem closedOnce_of_accounts {world : World} (hinv : world.core.Inv)
    (h : world.Accounts deployment) : world.ClosedOnce where
  thanksOnce := h.once
  thanked id party hmem := by
    obtain ⟨session, hsession, hclosed, hreason, hresolved⟩ := h.resolved _ hmem rfl
    refine ⟨session, true, (hinv.session_eq id).trans hsession, hresolved, ?_⟩
    simp [outcome, hreason, hclosed]
  reportOnce := h.oneReport
  finishedOnce := h.finishedOnce
  finished event hevent hkind := by
    obtain ⟨htold, id, session, byParties, hid, hsession, hdispute, hresolved, hthanks⟩ :=
      h.finished event hevent hkind
    refine ⟨htold, id, hid, ?_⟩
    rintro ⟨found, foundByParties, hfound, hfoundResolved, hended⟩ party
    rw [hinv.session_eq, hsession, Option.some.injEq] at hfound
    subst hfound
    -- The dispute was resolved one way only.
    obtain ⟨hreason, rfl⟩ := outcome_eq_selfResolved hended
    rw [hdispute] at hfoundResolved
    cases byParties with
    | true => exact hthanks hended party
    | false => exact absurd hresolved (hinv.resolvedBy_unique hfoundResolved)

/-- The call sends a party a message, or a solver a notification. -/
def Call.goesOut {β : Type} : Call β → Bool
  | .sendEvent _ | .sendDm _ _ _ => true
  | _ => false

/-- Any other call sends nothing. -/
theorem performCall_silent {β : Type} {call : Call β} (hcall : call.goesOut = false)
    (oracle : Oracle) (world : World) :
    (performCall deployment thread call oracle world).2.sent = world.sent ∧
      (performCall deployment thread call oracle world).2.told = world.told := by
  have hmakes := performCall_makes deployment thread call oracle world
  generalize (performCall deployment thread call oracle world).2 = later at hmakes ⊢
  cases hmakes with
  | _ => first | exact ⟨rfl, rfl⟩ | cases hcall

/-- The final reports of the dispute that went out. -/
def World.reports (world : World) (dispute : DisputeId) : List Told :=
  world.told.filter fun told => told.notification == "final_report" && told.disputeId == dispute

/-- The closing of the dispute sends nothing on the way from one world to a later one. -/
structure Rests (dispute : DisputeId) (before later : World) : Prop where
  finished : later.Finished dispute
  reports : later.reports dispute = before.reports dispute
  thanks : ∀ message ∈ later.sent, message.template = .resolvedThanks → message ∈ before.sent ∨
    ∃ session, later.core.sessions[message.sessionId]? = some session ∧
      session.disputeId ≠ dispute

/-- A finished dispute stays finished. -/
theorem World.Finished.mono {world later : World} {dispute : DisputeId} (h : world.Finished dispute)
    (hevents : world.store.events <+: later.store.events) : later.Finished dispute := by
  obtain ⟨event, hevent, hsame⟩ := h
  exact ⟨event, hevents.subset hevent, hsame⟩

/-- A step that sends nothing. -/
theorem Rests.silent {dispute : DisputeId} {before world later : World}
    (h : Rests dispute before world) (hcore : world.core.Follows later.core)
    (hevents : world.store.events <+: later.store.events) (hsent : later.sent = world.sent)
    (htold : later.told = world.told) : Rests dispute before later where
  finished := h.finished.mono hevents
  reports := by
    rw [World.reports, htold]
    exact h.reports
  thanks message hmem hthanks := by
    rw [hsent] at hmem
    refine (h.thanks message hmem hthanks).imp id ?_
    rintro ⟨session, hsession, hother⟩
    obtain ⟨found, hfound, hbecomes, -⟩ := hcore.sessions _ session hsession
    exact ⟨found, hfound, by rwa [hbecomes.disputeId]⟩

/-- The relay send of another session's thanks, or of another message. -/
theorem Rests.sendEvent {dispute : DisputeId} {before world : World} {message : Passed}
    {oracle : Oracle} (h : Rests dispute before world)
    (hsettles : Settles deployment thread (.sendEvent message) world) :
    Rests dispute before (performCall deployment thread (.sendEvent message) oracle world).2 := by
  simp only [performCall, World.sendEvent]
  split
  · exact { h with }
  · refine { h with thanks := fun other hmem hthanks => ?_ }
    rcases List.mem_append.mp hmem with hold | hnew
    · exact h.thanks other hold hthanks
    · rw [List.mem_singleton.mp hnew] at hthanks ⊢
      obtain ⟨-, -, session, hsession, hunfinished⟩ := hsettles hthanks
      refine Or.inr ⟨session, hsession, fun hdispute => hunfinished ?_⟩
      rw [hdispute]
      exact h.finished

/-- Telling a solver about another dispute, or something else. -/
theorem Rests.sendDm {dispute about : DisputeId} {before world : World} {solver : Nat}
    {notification : String} {oracle : Oracle} (h : Rests dispute before world)
    (hsettles : Settles deployment thread (.sendDm solver about notification) world) :
    Rests dispute before
      (performCall deployment thread (.sendDm solver about notification) oracle world).2 := by
  simp only [performCall, World.orFail]
  split
  · exact h
  · refine { h with reports := ?_ }
    rw [← h.reports, World.reports, World.reports, List.filter_append]
    by_cases hreport : notification = "final_report"
    · have hother : about ≠ dispute := by
        rintro rfl
        exact (hsettles hreport).2.1 h.finished
      simp [hother]
    · simp [hreport]

/-- One move after the closing is finished. -/
theorem Rests.moves {dispute : DisputeId} {before world later : World}
    (h : Rests dispute before world)
    (hmove : (closeExtension deployment hdistinct).contract.Moves world later) :
    Rests dispute before later := by
  cases hmove with
  | @call β thread call oracle _ hinv hpre _ _ =>
    have hcore := (performCall_stepped deployment thread call oracle hinv.1 hpre.1).follows.core
    have hevents := (performCall_logs deployment thread call oracle world).events
    by_cases hout : call.goesOut = true
    · cases call with
      | sendEvent message => exact h.sendEvent hpre.2
      | sendDm solver about notification => exact h.sendDm hpre.2
      | _ => cases hout
    · have hcall : call.goesOut = false := by simpa using hout
      obtain ⟨hsent, htold⟩ := performCall_silent hcall oracle world
      exact h.silent hcore hevents hsent htold
  | launch hinv _ hlaunch =>
    obtain ⟨hstore, htraffic⟩ := launch_traffic hlaunch
    refine h.silent (launch_stepped hinv.1 hlaunch).follows.core ?_
      (congrArg Traffic.sent htraffic) (congrArg Traffic.told htraffic)
    exact hstore ▸ List.prefix_rfl
  | happen hinv _ hhappen =>
    obtain ⟨hevents, htraffic⟩ := happen_traffic hhappen
    have hsame : later.sent = world.sent ∧ later.told = world.told := by
      rcases htraffic with hsame | ⟨message, -, -, hsame⟩
      · exact ⟨congrArg Traffic.sent hsame, congrArg Traffic.told hsame⟩
      · exact ⟨congrArg Traffic.sent hsame, congrArg Traffic.told hsame⟩
    refine h.silent (happen_stepped hinv.1 hhappen).follows.core ?_ hsame.1 hsame.2
    exact hevents ▸ List.prefix_rfl
  | @restart oracle _ hinv _ =>
    exact h.silent (restart_follows hinv.1).2.core List.prefix_rfl rfl rfl

/-- **Closing happens exactly once.** Where the closing thanks is no other template's text, in every
state an accounted run reaches, whatever the interleaving of the closings with all other tasks and
whichever sends fail: what was closed was closed once, and from there on the closing of a finished
dispute sends nothing more. -/
theorem closing_once {clock : Int} {conf conf' : Conf Call String Task World}
    (hdistinct : deployment.DistinctThanks)
    (hrun : (machine deployment).RunsTo accounted (Serbero.start clock) conf)
    (hlater : (machine deployment).RunsTo accounted conf conf') :
    conf.world.ClosedOnce ∧ ∀ dispute, conf.world.Finished dispute →
      conf'.world.reports dispute = conf.world.reports dispute ∧
        ∀ id session, conf'.world.store.session id = some session →
          session.disputeId = dispute → ∀ party, thanksTo id party ∈ conf'.world.sent →
            thanksTo id party ∈ conf.world.sent := by
  have hstart : (closeExtension deployment hdistinct).contract.Kept (Serbero.start clock) :=
    Contract.kept_of_start ⟨inv_start clock, accounts_start deployment clock⟩
  have hlaunches : (closeExtension deployment hdistinct).contract.Launches :=
    close_launches deployment hdistinct
  have hkept := (hstart.run hlaunches hrun.whenEnabled).1
  obtain ⟨hkept', hmoves⟩ := hkept.run hlaunches hlater.whenEnabled
  refine ⟨closedOnce_of_accounts hkept.1.1 hkept.1.2, fun dispute hfinished => ?_⟩
  have hrests : Rests dispute conf.world conf'.world :=
    Contract.Moves.run_induction (Rests dispute conf.world) (fun h hmove => h.moves hmove) hmoves
      ⟨hfinished, rfl, fun _ hmem _ => Or.inl hmem⟩
  refine ⟨hrests.reports, fun id session hsession hdispute party hmem => ?_⟩
  rw [hkept'.1.1.session_eq] at hsession
  rcases hrests.thanks _ hmem rfl with hbefore | ⟨found, hfound, hother⟩
  · exact hbefore
  · rw [show conf'.world.core.sessions[id]? = some found from hfound, Option.some.injEq] at hsession
    subst hsession
    exact absurd hdispute hother

/-- A deployment whose closing thanks has a text of its own. -/
def thankfulDeployment : Deployment :=
  { smallDeployment with
    render := fun _ template _ _ => .ok (if template = .resolvedThanks then "thanks" else "text") }

/-- The text of the thanks is no other template's. -/
theorem distinctThanks_thankful : thankfulDeployment.DistinctThanks := by
  rintro template text ⟨_, _, _, hthanks⟩ ⟨_, _, _, htext⟩
  by_contra hother
  have htexts : text = "thanks" ∧ text = "text" := by
    constructor
    · exact (Except.ok.inj hthanks).symm
    · have heq := (Except.ok.inj htext).symm
      rwa [if_neg hother] at heq
  exact absurd (htexts.1.symm.trans htexts.2) (by decide)

/-- The parties resolve the dispute, the closing thanks both of them and reports to the solver. -/
def finishedSteps : List (Choice Task Oracle Happening) :=
  openedSteps ++ closedSteps ++ [.launch (.finish 1 .released true) .quiet] ++ quietly 4 18

/-- A later look for closings that did not complete. -/
def retriedSteps : List (Choice Task Oracle Happening) :=
  [.launch .finishPending .quiet] ++ quietly 5 2

/-- Retried after it was finished, the closing sends nothing more. -/
theorem closing_once_finished :
    let finished := (machine thankfulDeployment).after accounted (Serbero.start 1000) finishedSteps
    let retried := (machine thankfulDeployment).after accounted finished retriedSteps
    finished.world.ClosedOnce ∧ ∀ dispute, finished.world.Finished dispute →
      retried.world.reports dispute = finished.world.reports dispute ∧
        ∀ id session, retried.world.store.session id = some session →
          session.disputeId = dispute → ∀ party, thanksTo id party ∈ retried.world.sent →
            thanksTo id party ∈ finished.world.sent :=
  closing_once distinctThanks_thankful
    ((machine thankfulDeployment).runsTo_after (by decide +kernel))
    ((machine thankfulDeployment).runsTo_after (by decide +kernel))

end Serbero
