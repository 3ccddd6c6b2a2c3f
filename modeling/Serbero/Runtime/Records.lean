import Serbero.Runtime.Lifecycle
import Serbero.Runtime.Replay
import Serbero.Store.Statements

/-! # What a run keeps on record

Every call is a sequence of statements, and so is all that happens besides. Whatever the tasks do, in
whatever order, over any number of restarts, what was stored once is stored for good. -/

namespace Serbero

open Pool Relation

/-! ## Calls as statements -/

namespace Store

variable (store : Store)

/-- An event is one insertion. -/
theorem statements_append (new : NewEvent) : Statements store (store.append new) :=
  .single (.event store new)

/-- Notices to the observers are insertions. -/
theorem statements_queueForObservers (observers : List Nat) (id : DisputeId) (subject : String)
    (now : Int) : Statements store (store.queueForObservers observers id subject now) := by
  unfold queueForObservers
  induction observers generalizing store with
  | nil => exact .refl
  | cons observer rest ih =>
    refine .trans ?_ (ih _)
    unfold queueForObserver
    simp only []
    split
    · exact .refl
    · exact store.statements_append _

/-- An update of sessions that leaves what was taken and the rounds alone. -/
theorem statements_sessions {picked : Session → Bool} {change : Session → Session}
    (hchange : ∀ row : Session, row.Advances (change row)) :
    Statements store (store.updateSessions picked change) := .single (.sessions store hchange)

/-- An update of disputes that leaves the revision alone. -/
theorem statements_disputes {picked : Dispute → Bool} {change : Dispute → Dispute}
    (hchange : ∀ row : Dispute, row.Advances (change row)) :
    Statements store (store.updateDisputes picked change) :=
  .single (.disputes store fun row _ _ => hchange row)

/-- A session's state is an update of its row. -/
theorem statements_setState (id : SessionId) (state : SessionState) (now : Int) :
    Statements store (store.setState id state now) :=
  store.statements_sessions fun _ => .of_eq rfl rfl rfl rfl rfl

/-- A dispute's life cycle is an update of its row. -/
theorem statements_setLifecycle (id : DisputeId) (lifecycle : Lifecycle) (now : Int) :
    Statements store (store.setLifecycle id lifecycle now) :=
  store.statements_disputes fun _ => ⟨rfl, rfl, le_rfl⟩

/-- A dispute not seen before is an insertion. -/
theorem statements_insertDisputeIfNew (new : NewDispute) :
    Statements store (store.insertDisputeIfNew new) := .single (.dispute store new)

/-- A round that is counted is an update of the session's row. -/
theorem statements_countRound (id : SessionId) (party : Party) (firstInTurn : Bool) (now : Int) :
    Statements store (store.countRound id party firstInTurn now) := by
  refine store.statements_sessions fun row => ⟨rfl, rfl, ?_, ?_, ?_, ?_⟩
  · exact Nat.le_add_right _ _
  · exact Nat.le_add_right _ _
  · exact Nat.le_add_right _ _
  · -- The party's own round is counted with the session's.
    cases party <;> cases firstInTurn <;> simp <;> omega

/-- So is a language. -/
theorem statements_setLanguage (id : SessionId) (party : Party) (lang : String) (now : Int) :
    Statements store (store.setLanguage id party lang now) :=
  store.statements_sessions fun _ => by cases party <;> exact .of_eq rfl rfl rfl rfl rfl

/-- A newer revision replaces an older one. -/
theorem statements_applyStatus (hunique : (store.disputes.map Dispute.disputeId).Nodup)
    (id : DisputeId) (status : DisputeStatus) (statusAt now : Int) :
    Statements store (store.applyStatus id status statusAt now).2 := by
  unfold applyStatus
  split
  · exact .refl
  next stored hstored =>
  split
  · next hnewer =>
    refine .single (.disputes store fun row hrow hpicked => ⟨rfl, rfl, ?_⟩)
    -- The row that is updated is the one that was compared.
    have hid : row.disputeId = stored.disputeId := by
      have hfound := List.find?_some hstored
      rw [beq_iff_eq] at hpicked hfound
      rw [hpicked, hfound]
    have hsame := List.inj_on_of_nodup_map hunique hrow (List.mem_of_find?_eq_some hstored) hid
    rw [hsame]
    exact le_of_lt hnewer
  · exact .refl

/-- A delivered revision. -/
theorem statements_record (hunique : (store.disputes.map Dispute.disputeId).Nodup)
    (dispute : DisputeEvent) (now : Int) : Statements store (store.record dispute now).2 := by
  exact record_steps (fun _ => .refl) .trans statements_insertDisputeIfNew statements_setState
    statements_setLifecycle (fun before new _ => statements_append before new)
    (store.statements_applyStatus hunique _ _ _ now)

end Store

variable {deployment : Deployment}

/-- A call is a sequence of statements. -/
theorem performCall_statements (deployment : Deployment) {β : Type} (thread : Thread Task)
    (call : Call β) (oracle : Oracle) {world : World} (h : world.core.Inv) :
    Statements world.store (performCall deployment thread call oracle world).2.store := by
  have hwrites := performCall_writes deployment thread call oracle world
  generalize (performCall deployment thread call oracle world).2.store = later at hwrites ⊢
  cases hwrites with
  | nothing => exact .refl
  | insertSession hid => exact .single (.session world.store hid)
  | insertMessage => exact .single (.message world.store rfl)
  | activate =>
    exact .trans (Store.statements_setState _ _ _ _) (Store.statements_queueForObservers _ _ _ _ _)
  | @abandon dispute id reason now =>
    unfold Store.abandonOpening
    refine .trans (.trans (.trans ?_ (Store.statements_append _ _))
      (Store.statements_append _ _)) (Store.statements_queueForObservers _ _ _ _ _)
    cases id with
    | none => exact .refl
    | some id => exact Store.statements_sessions _ fun _ => .of_eq rfl rfl rfl rfl rfl
  | append => exact Store.statements_append _ _
  -- A claim is the state of one row, two marks and the notices it queues.
  | handOff hclaim =>
    obtain ⟨-, rfl⟩ := Store.claimHandOff_eq_some hclaim
    refine .trans (.trans (.trans ?_ (Store.statements_append _ _))
      (Store.statements_append _ _)) (Store.statements_queueForObservers _ _ _ _ _)
    exact Store.statements_sessions _ fun _ => .of_eq rfl rfl rfl rfl rfl
  | startGuiding hclaim =>
    obtain ⟨-, rfl⟩ := Store.claimGuiding_eq_some hclaim
    refine .trans (.trans (.trans ?_ (Store.statements_append _ _))
      (Store.statements_append _ _)) (Store.statements_queueForObservers _ _ _ _ _)
    exact Store.statements_sessions _ fun _ => .of_eq rfl rfl rfl rfl rfl
  | recordHold => exact Store.statements_append _ _
  | setLanguage => exact Store.statements_setLanguage _ _ _ _ _
  | countRound => exact Store.statements_countRound _ _ _ _ _
  | insertEvaluation => exact .single (.evaluation world.store _)
  | record => exact world.store.statements_record h.disputes _ _
  | markNotified => exact Store.statements_disputes _ fun _ => ⟨rfl, rfl, le_rfl⟩

/-- So is what happens outside the tasks. -/
theorem happen_statements {happening : Happening} {world later : World}
    (h : happen deployment happening world = some later) :
    Statements world.store later.store := by
  cases happens_of_happen h with
  | received => exact .single (.message world.store rfl)
  | _ => exact .refl

/-! ## Runs as statements -/

variable {condition : Condition Call Task Oracle Happening World}

/-- Every move of the pool is a sequence of statements. -/
theorem statements_of_moves {world later : World}
    (h : (contract deployment condition).Moves world later) :
    Statements world.store later.store := by
  cases h with
  | call hinv _ _ _ => exact performCall_statements deployment _ _ _ hinv
  | launch _ _ hlaunch =>
    rw [(launch_traffic hlaunch).1]
  | happen _ _ hhappen => exact happen_statements hhappen
  | restart _ _ => exact .refl

/-- **Nothing that was recorded is lost or changed.** In every run, over any interleaving of the
tasks and any number of restarts: the event log, the evaluations and the messages are only appended
to, each row under the number of its place; sessions and disputes stay in their places with what
was first stored of them, rounds are never taken back, and no older revision replaces a newer one. -/
theorem records_last {clock : Int} {conf conf' : Conf Call String Task World}
    (hrun : (machine deployment).RunsTo condition (Serbero.start clock) conf)
    (hlater : (machine deployment).RunsTo condition conf conf') :
    conf.world.store.InPlace ∧ conf.world.store.Later conf'.world.store := by
  have hstart : (contract deployment condition).Kept (Serbero.start clock) :=
    Contract.kept_of_start (inv_start clock)
  obtain ⟨hkept, hmoves⟩ := hstart.run (launches deployment condition) hrun
  have hempty : (World.start clock).store.InPlace := by
    constructor <;> intro i row hrow <;> simp [World.start, Store.empty] at hrow
  refine ⟨?_, ?_⟩
  · exact Contract.Moves.run_induction (fun world => world.store.InPlace)
      (fun hplace hmove => hplace.of_statements (statements_of_moves hmove)) hmoves hempty
  · refine Contract.Moves.run_induction (fun world => conf.world.store.Later world.store)
      (fun hbefore hmove => hbefore.trans (.of_statements (statements_of_moves hmove)))
      (hkept.run (launches deployment condition) hlater).2 (.refl _)

/-- The records of a session that its parties resolved. -/
theorem records_last_closed :
    let closedConf := (machine smallDeployment).after Condition.always openedConf closedSteps
    openedConf.world.store.messages.length = 2 ∧ openedConf.world.store.InPlace ∧
      openedConf.world.store.Later closedConf.world.store :=
  ⟨by decide +kernel, records_last ((machine smallDeployment).runsTo_after (by decide +kernel))
    ((machine smallDeployment).runsTo_after (by decide +kernel))⟩

end Serbero
