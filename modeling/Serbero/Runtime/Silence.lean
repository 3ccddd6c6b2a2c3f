import Serbero.Runtime.Ledger

/-! # Silence after the end

What passes the gate's check, whatever the sender read before and whatever happened since. -/

namespace Serbero

open Pool Relation

variable {deployment : Deployment} {condition : Condition Call Task Oracle Happening World}

/-! ## What passes -/

/-- A message may pass the gate of a session: the hand-off notice while it is live, any message
while Serbero mediates, and the closing thanks of a session that was never handed off. -/
def Lawful (session : Session) (template : Template) : Prop :=
  (session.isLive = true ∧ template = .handoffNotice) ∨ session.state.isMediating = true ∨
    (session.state = .closed ∧ session.handoffReason = none ∧ template = .resolvedThanks)

/-- **The law of the gate.** What passes is lawful for the session as it is then. -/
theorem lawful_of_gate {world : World} (h : world.core.Inv) {thread : Thread Task}
    {rule : GateRule} {message : Passed} (hneeds : Needs thread (.gate rule message) world)
    {session : Session} (hsession : world.store.session message.sessionId = some session)
    (hallows : rule.allows session.state = true) : Lawful session message.template := by
  rw [h.session_eq] at hsession
  cases rule with
  | live =>
    rcases hneeds with hnotice | ⟨-, opening, hopening, hstate⟩
    · exact Or.inl ⟨hallows, hnotice⟩
    · -- An opener is sent to the opening session of its own thread, or to none.
      change opening.state = _ ∨ _ at hstate
      have hsame : session = opening := by
        change world.core.sessions[message.sessionId]? = _ at hopening
        rw [hsession, Option.some.injEq] at hopening
        exact hopening
      subst hsame
      rcases hstate with hopen | hterminal
      · refine Or.inr (Or.inl ?_)
        rw [hopen]
        rfl
      · rw [GateRule.allows, hterminal] at hallows
        exact absurd hallows (by decide)
  | mediating => exact Or.inr (Or.inl hallows)
  | closed =>
    obtain ⟨htemplate, found, hfound, -, hreason⟩ := hneeds
    have hclosed : session.state = .closed := by simpa [GateRule.allows] using hallows
    rw [hsession, Option.some.injEq] at hfound
    subst hfound
    exact Or.inr (Or.inr ⟨hclosed, hreason hclosed, htemplate⟩)

/-- What the check of the gate does: it lets the message pass, or changes nothing. -/
theorem gate_cases (deployment : Deployment) (thread : Thread Task) (rule : GateRule)
    (message : Passed) (oracle : Oracle) (world : World) :
    (performCall deployment thread (.gate rule message) oracle world).2 = world ∨
      (∃ session, world.store.session message.sessionId = some session ∧
        rule.allows session.state = true) ∧
      (performCall deployment thread (.gate rule message) oracle world).2 =
        { world with
          passed := world.passed ++ [message]
          sending := world.sending ++ [(thread.number, message)] } := by
  simp only [performCall, World.orFail, World.checkGate]
  split
  · exact Or.inl rfl
  · split
    · next hany =>
      rw [Option.any_eq_true] at hany
      exact Or.inr ⟨hany, rfl⟩
    · exact Or.inl rfl

/-- One move lets nothing pass, or the message of one gate check. -/
theorem gate_of_moves {world world' : World}
    (h : (contract deployment condition).Moves world world') :
    world'.passed = world.passed ∨ ∃ (thread : Thread Task) (rule : GateRule) (message : Passed)
      (session : Session), world'.passed = world.passed ++ [message] ∧
        Needs thread (.gate rule message) world ∧
        world.store.session message.sessionId = some session ∧
        rule.allows session.state = true ∧ (thread.number, message) ∈ world'.sending := by
  cases effect_of_moves h with
  | quiet h => exact Or.inl (congrArg Traces.passed h.traces)
  | restart _ => exact Or.inl rfl
  | @call β thread request oracle hleaves hneeds hcond =>
    have hmakes := performCall_makes deployment thread request oracle world
    generalize (performCall deployment thread request oracle world).2 = later at hmakes ⊢
    cases hmakes with
    | @gate rule message hallows =>
      obtain ⟨session, hsession, hallows⟩ := (Option.any_eq_true _ _).mp hallows
      exact Or.inr ⟨thread, rule, message, session, rfl, hneeds, hsession, hallows,
        List.mem_append_right _ List.mem_cons_self⟩
    | _ => exact Or.inl rfl

/-- One move sends nothing, or one message that passed its check. -/
theorem sent_of_moves {world later : World}
    (hmove : (contract deployment condition).Moves world later) :
    later.sent = world.sent ∨ ∃ entry ∈ world.sending, later.sent = world.sent ++ [entry.2] := by
  cases effect_of_moves hmove with
  | quiet hquiet => exact Or.inl (congrArg Traces.sent hquiet.traces)
  | restart _ => exact Or.inl rfl
  | @call β thread request oracle hleaves hneeds hcond =>
    have hmakes := performCall_makes deployment thread request oracle world
    generalize (performCall deployment thread request oracle world).2 = later at hmakes ⊢
    cases hmakes with
    | sent => exact Or.inr ⟨_, hneeds, rfl⟩
    | _ => exact Or.inl rfl

/-- One move lets nothing pass, or one lawful message. -/
theorem passed_of_moves {world world' : World} (hinv : world.core.Inv)
    (h : (contract deployment condition).Moves world world') :
    world'.passed = world.passed ∨ ∃ message session, world'.passed = world.passed ++ [message] ∧
      world.store.session message.sessionId = some session ∧ Lawful session message.template := by
  rcases gate_of_moves h with hsame |
    ⟨thread, rule, message, session, hadded, hneeds, hsession, hallows, -⟩
  · exact Or.inl hsame
  · exact Or.inr ⟨message, session, hadded, hsession,
      lawful_of_gate hinv hneeds hsession hallows⟩

/-! ## Silence -/

/-- What a session lets pass from now on, once it was handed off or ended. -/
def Silences (session : Session) (template : Template) : Prop :=
  (session.state = .handedOff → template = .handoffNotice) ∧ session.state ≠ .superseded ∧
    (session.state = .closed → template = .resolvedThanks)

/-- What is lawful for a session later was not silenced before. -/
theorem silences_of_lawful {claims : List (SessionId × Claimer)} {marks : List Event}
    {session later : Session} {template : Template} (documented : session.Documented claims marks)
    (hbecomes : session.Becomes later) (hlawful : Lawful later template) :
    Silences session template := by
  have hmediating : later.state.isMediating = true → session.state.stage < 3 := fun h =>
    lt_of_le_of_lt hbecomes.stage ((SessionState.isMediating_iff_stage _).mp h)
  refine ⟨fun hstate => ?_, fun hstate => ?_, fun hstate => ?_⟩
  · rcases hlawful with ⟨-, hnotice⟩ | hmediates | ⟨-, hnone, -⟩
    · exact hnotice
    · have := hmediating hmediates
      rw [hstate] at this
      exact absurd this (by decide)
    · -- A session that was handed off keeps its reason.
      obtain ⟨reason, hreason⟩ := Option.ne_none_iff_exists'.mp (documented.handed hstate)
      rw [hbecomes.reason reason hreason] at hnone
      cases hnone
  · have hover := (hbecomes.ended (by rw [hstate]; rfl)).1
    rw [hstate] at hover
    rcases hlawful with ⟨hlive, -⟩ | hmediates | ⟨hclosed, -, -⟩
    · rw [Session.isLive, hover] at hlive
      exact absurd hlive (by decide)
    · rw [hover] at hmediates
      exact absurd hmediates (by decide)
    · rw [hover] at hclosed
      cases hclosed
  · have hover := (hbecomes.ended (by rw [hstate]; rfl)).1
    rw [hstate] at hover
    rcases hlawful with ⟨hlive, -⟩ | hmediates | ⟨-, -, hthanks⟩
    · rw [Session.isLive, hover] at hlive
      exact absurd hlive (by decide)
    · rw [hover] at hmediates
      exact absurd hmediates (by decide)
    · exact hthanks

/-- What passes along a run was not silenced at its start. -/
theorem passed_of_run {world world' : World} (h : world.core.Inv)
    (hrun : ReflTransGen (contract deployment condition).Moves world world') :
    ∃ more, world'.passed = world.passed ++ more ∧ ∀ message ∈ more, ∀ session,
      world.store.session message.sessionId = some session →
        Silences session message.template := by
  let fact := fun later : World => world.Follows later ∧ later.core.Inv ∧ ∃ more,
    later.passed = world.passed ++ more ∧ ∀ message ∈ more, ∀ session,
      world.store.session message.sessionId = some session → Silences session message.template
  suffices hfact : fact world' from hfact.2.2
  refine Contract.Moves.run_induction fact ?_ hrun ⟨.refl world, h, [], by simp, by simp⟩
  rintro mid later ⟨hfollows, hinv, more, hpassed, hsilent⟩ hmove
  obtain ⟨hinv', hfollows'⟩ := follows_of_moves hmove
  refine ⟨hfollows.trans hfollows', hinv', ?_⟩
  rcases passed_of_moves hinv hmove with hsame | ⟨message, found, hadded, hfound, hlawful⟩
  · exact ⟨more, hsame.trans hpassed, hsilent⟩
  · refine ⟨more ++ [message], by rw [hadded, hpassed, List.append_assoc], ?_⟩
    intro other hother session hsession
    rcases List.mem_append.mp hother with hold | hnew
    · exact hsilent other hold session hsession
    · rw [List.mem_singleton.mp hnew] at hsession ⊢
      rw [h.session_eq] at hsession
      rw [hinv.session_eq] at hfound
      obtain ⟨row, hrow, hbecomes, -⟩ := hfollows.core.sessions _ session hsession
      rw [hrow, Option.some.injEq] at hfound
      subst hfound
      exact silences_of_lawful (h.documented session (List.mem_of_getElem? hsession)) hbecomes
        hlawful

/-- **Silence after the end.** From any state a run reaches: nothing but the hand-off notice passes
the gate of a session that was handed off, nothing that of a superseded one, and nothing but the
closing thanks that of a closed one. A single step lets at most one message pass, and any other
template only while the session is opening, active or guiding. -/
theorem silence_after_end {clock : Int} {conf : Conf Call String Task World}
    (hrun : (machine deployment).RunsTo Condition.always (Serbero.start clock) conf) :
    (∀ conf', (machine deployment).RunsTo Condition.always conf conf' →
      ∃ more, conf'.world.passed = conf.world.passed ++ more ∧ ∀ message ∈ more, ∀ session,
        conf.world.store.session message.sessionId = some session →
          (session.state = .handedOff → message.template = .handoffNotice) ∧
          session.state ≠ .superseded ∧
          (session.state = .closed → message.template = .resolvedThanks)) ∧
    ∀ conf', (machine deployment).StepsTo Condition.always conf conf' →
      conf'.world.passed = conf.world.passed ∨
      ∃ message session, conf'.world.passed = conf.world.passed ++ [message] ∧
        conf.world.store.session message.sessionId = some session ∧
        (message.template ≠ .handoffNotice → message.template ≠ .resolvedThanks →
          session.state.isMediating = true) := by
  have hkept := kept_of_run hrun
  refine ⟨fun conf' hlater => ?_, fun conf' hstep => ?_⟩
  · exact passed_of_run hkept.1 (hkept.run (launches deployment Condition.always) hlater).2
  · rcases passed_of_moves hkept.1 (hkept.step (launches deployment Condition.always) hstep).2 with
      hsame | ⟨message, session, hadded, hsession, hlawful⟩
    · exact Or.inl hsame
    · refine Or.inr ⟨message, session, hadded, hsession, fun hnotice hthanks => ?_⟩
      rcases hlawful with ⟨-, h⟩ | hmediates | ⟨-, -, h⟩
      · exact absurd h hnotice
      · exact hmediates
      · exact absurd h hthanks

/-- The turn hands the session off, and neither party was told yet. -/
theorem silence_after_end_handedOff :
    let handedOffConf := (machine smallDeployment).after Condition.always (Serbero.start 1000)
      (unjudgedSteps ++ quietly 3 1)
    (handedOffConf.world.store.session 0).map (·.state) = some .handedOff ∧
    (∀ conf', (machine smallDeployment).RunsTo Condition.always handedOffConf conf' →
      ∃ more, conf'.world.passed = handedOffConf.world.passed ++ more ∧
        ∀ message ∈ more, ∀ session,
          handedOffConf.world.store.session message.sessionId = some session →
            (session.state = .handedOff → message.template = .handoffNotice) ∧
            session.state ≠ .superseded ∧
            (session.state = .closed → message.template = .resolvedThanks)) ∧
    ∀ conf', (machine smallDeployment).StepsTo Condition.always handedOffConf conf' →
      conf'.world.passed = handedOffConf.world.passed ∨
      ∃ message session, conf'.world.passed = handedOffConf.world.passed ++ [message] ∧
        handedOffConf.world.store.session message.sessionId = some session ∧
        (message.template ≠ .handoffNotice → message.template ≠ .resolvedThanks →
          session.state.isMediating = true) :=
  ⟨by decide +kernel, silence_after_end ((machine smallDeployment).runsTo_after (by decide +kernel))⟩

end Serbero
