import Serbero.Lib.Companion
import Serbero.Runtime.Turns

/-! # A turn beside a companion

What a turn needs to know of the notes that are kept beside the daemon is known when its parts know
it: loading, the flood, the judge, and the decision. -/

namespace Serbero

open Pool
open Pool.Program

variable {deployment : Deployment} {Deed Notes : Type}
  {companion : Companion (machine deployment) Deed Notes}
  {both : Condition Call Task Oracle (Happening ⊕ Deed) (World × Notes)}

/-- What the allowed calls need is known. -/
def Enough (spec : Spec companion.beside both) (thread : Thread Task)
    (allowed : {β : Type} → Call β → Prop) (fact : World × Notes → Prop) : Prop :=
  ∀ {β : Type} {call : Call β} {world}, allowed call → spec.inv world → fact world →
    spec.pre thread call world

variable {spec : Spec companion.beside both} {thread : Thread Task}
  {allowed : {β : Type} → Call β → Prop} {fact : World × Notes → Prop}

/-- A program of allowed calls keeps what lasts over them. -/
theorem keeps_beside {α : Type} {program : Daemon α} (hfact : spec.Lasting thread allowed fact)
    (hpre : Enough spec thread allowed fact) (h : Says deployment thread allowed program) :
    spec.Keeps thread fact program :=
  (Spec.triple_of_makes hfact (fun hcall hinv hknown => hpre hcall hinv hknown)
    (Companion.makes_beside h)).consequence (fun _ _ hknown => hknown) fun _ _ _ hknown => hknown.1

/-- What an allowed program of known calls returns is known besides. -/
theorem learns_of_makes {α : Type} {program : Daemon α} {post : α → Prop}
    (hfact : spec.Lasting thread allowed fact) (hpre : Enough spec thread allowed fact)
    (h : (machine deployment).Makes thread allowed post program) :
    spec.Learns thread fact program fun value _ => post value :=
  Spec.triple_of_makes hfact (fun hcall hinv hknown => hpre hcall hinv hknown)
    (Companion.makes_beside h)

/-- What a look at the store tells is known, if others leave it. -/
theorem learns_look {α : Type} {call : Call α} (query : Store → α)
    (known : α → World × Notes → Prop)
    (hlook : ∀ oracle world, performCall deployment thread call oracle world =
      world.orFail oracle (.ok (query world.store), world.look thread.number))
    (hfact : spec.Lasting thread allowed fact) (hcall : allowed call)
    (hpre : Enough spec thread allowed fact)
    (hrely : ∀ {value world world'}, known value world → spec.rely thread world world' →
      known value world')
    (hquery : ∀ world oracle, spec.inv world → fact world →
      known (query world.1.store) (companion.beside.perform thread call oracle world).2) :
    spec.Learns thread fact (perform call) known := by
  refine .perform hfact.rely (fun world hinv hknown => hpre hcall hinv hknown) ?_
  intro world oracle later hinv hknown hcond hlater _
  refine ⟨hfact.rely (hfact.call hcall hinv (hpre hcall hinv hknown) hcond hknown) hlater, ?_⟩
  intro value hvalue
  refine hrely ?_ hlater
  change (performCall deployment thread call oracle world.1).1 = _ at hvalue
  rw [hlook] at hvalue
  unfold World.orFail at hvalue
  split at hvalue
  · cases hvalue
  · cases Except.ok.inj hvalue
    exact hquery world oracle hinv hknown

/-- The call reads the store. -/
def Call.isRead {β : Type} : Call β → Bool
  | .read _ => true
  | _ => false

/-- The parts of a turn of the session, and what each of them needs to know: always, once the
session is loaded, once it is flooded, and once the judge answered about a state. -/
structure TurnWalk (spec : Spec companion.beside both) (thread : Thread Task) (id : SessionId)
    (allowed : {β : Type} → Call β → Prop) (fact : World × Notes → Prop)
    (loaded : Session → List Message → Initiator → World × Notes → Prop)
    (flooding : Session → World × Notes → Prop) (asked : JudgeState → World × Notes → Prop) :
    Prop where
  lasting : spec.Lasting thread allowed fact
  enough : Enough spec thread allowed fact
  reports : AllowsReports allowed
  guide : MayGuide deployment allowed id
  lasting_loaded : ∀ session messages openedBy,
    spec.Lasting thread allowed (loaded session messages openedBy)
  load : ∀ {session messages openedBy} world oracle, spec.inv world → fact world →
    world.1.store.load id = some (session, messages, openedBy) →
      loaded session messages openedBy (companion.beside.perform thread (.load id) oracle world).2
  flooded : ∀ session messages openedBy phase now, session.sessionId = id →
    phaseOf session.state = some phase → spec.Triple thread
    (fun world => fact world ∧ loaded session messages openedBy world)
    (flooded deployment session messages now) fun result world =>
      loaded session messages openedBy world ∧ (result ≠ .ok true → fact world) ∧
        (result = .ok true → flooding session world)
  /-- The flooded session is handed off with the last reading. -/
  flood : ∀ session messages openedBy phase now, session.sessionId = id →
    phaseOf session.state = some phase → spec.Triple thread
    (fun world => loaded session messages openedBy world ∧ flooding session world)
    (do
      let last ← lastReading deployment session messages
      let _ ← handOff deployment session .flood last now
      return TurnOutcome.decided (.handoff .flood)) fun _ => fact
  unavailable : ∀ session now, session.sessionId = id →
    spec.Keeps thread fact (handOff deployment session .judgeUnavailable none now)
  lasting_asked : ∀ state, spec.Lasting thread (fun call => call.isRead = true) (asked state)
  judge : ∀ world state oracle, spec.inv world → fact world → oracle.fails = none →
    asked state (companion.beside.perform thread (.evaluate state) oracle world).2
  decide : ∀ session messages openedBy phase answers now, session.sessionId = id →
    phaseOf session.state = some phase →
      let state := buildState deployment.nip19 session openedBy messages
        deployment.settings.maxMessageChars
      spec.Triple thread
        (fun world => (fact world ∧ loaded session messages openedBy world) ∧ asked state world)
        (decideAndAct deployment session messages phase state answers now) fun _ => fact
  join : ∀ again world, spec.inv world → fact world → spec.pre thread (.joinTurn again) world

namespace TurnWalk

variable {id : SessionId} {loaded : Session → List Message → Initiator → World × Notes → Prop}
  {flooding : Session → World × Notes → Prop} {asked : JudgeState → World × Notes → Prop}

/-- A part without a need of its own. -/
theorem keeps (h : TurnWalk spec thread id allowed fact loaded flooding asked) {α : Type}
    {program : Daemon α} (hmakes : Says deployment thread allowed program) :
    spec.Keeps thread fact program :=
  keeps_beside h.lasting h.enough hmakes

/-- What is known once the session is loaded. -/
def known (fact : World × Notes → Prop)
    (loaded : Session → List Message → Initiator → World × Notes → Prop) (session : Session)
    (messages : List Message) (openedBy : Initiator) (world : World × Notes) : Prop :=
  fact world ∧ loaded session messages openedBy world

/-- What was loaded is known throughout the turn. -/
theorem lasting_known (h : TurnWalk spec thread id allowed fact loaded flooding asked)
    (session : Session) (messages : List Message) (openedBy : Initiator) :
    spec.Lasting thread allowed (known fact loaded session messages openedBy) :=
  h.lasting.and (h.lasting_loaded session messages openedBy)

/-- A part without a need of its own keeps it known. -/
theorem keeps_known (h : TurnWalk spec thread id allowed fact loaded flooding asked)
    (session : Session) (messages : List Message) (openedBy : Initiator) {α : Type}
    {program : Daemon α} (hmakes : Says deployment thread allowed program) :
    spec.Keeps thread (known fact loaded session messages openedBy) program :=
  keeps_beside (h.lasting_known session messages openedBy)
    (fun hcall hinv hknown => h.enough hcall hinv hknown.1) hmakes

/-- A turn that is over once the session is loaded. -/
theorem ended (h : TurnWalk spec thread id allowed fact loaded flooding asked) (session : Session)
    (messages : List Message) (openedBy : Initiator) (outcome : TurnOutcome) :
    spec.Triple thread (known fact loaded session messages openedBy) (.done outcome)
      fun _ => fact :=
  Spec.Triple.consequence (Spec.Keeps.done h.lasting outcome) (fun _ _ hknown => hknown.1)
    fun _ _ _ hknown => hknown

/-- The judge's answer, or the hand-off without one. -/
theorem judgeTurn (h : TurnWalk spec thread id allowed fact loaded flooding asked)
    {session : Session} (hid : session.sessionId = id) (messages : List Message)
    (openedBy : Initiator) {phase : Phase} (hphase : phaseOf session.state = some phase)
    (now : Int) :
    spec.Triple thread (known fact loaded session messages openedBy)
      (Serbero.judgeTurn deployment session messages phase
        (buildState deployment.nip19 session openedBy messages deployment.settings.maxMessageChars)
        now) fun _ => fact := by
  generalize hstate : buildState deployment.nip19 session openedBy messages
    deployment.settings.maxMessageChars = state
  have hknown := h.lasting_known session messages openedBy
  have hpre : Enough spec thread allowed (known fact loaded session messages openedBy) :=
    fun hcall hinv hboth => h.enough hcall hinv hboth.1
  have hevaluate : allowed (.evaluate state) := h.reports.query rfl
  have hasked : spec.Learns thread (known fact loaded session messages openedBy)
      (perform (.evaluate state)) fun _ world => asked state world := by
    refine .perform hknown.rely (fun world hinv hboth => hpre hevaluate hinv hboth) ?_
    intro world oracle later hinv hboth hcond hrely _
    refine ⟨hknown.rely (hknown.call hevaluate hinv (hpre hevaluate hinv hboth) hcond hboth) hrely,
      fun answers hanswers => (h.lasting_asked state).rely ?_ hrely⟩
    refine h.judge world state oracle hinv hboth.1 ?_
    change (world.1.orFail oracle (.ok oracle.answers, world.1)).1 = _ at hanswers
    cases hfails : oracle.fails with
    | none => rfl
    | some failure =>
      rw [World.orFail, hfails] at hanswers
      cases hanswers
  refine Spec.Learns.attempt_triple hasked (fun answers => ?_) fun failure => ?_
  · -- The reads after the answer forget nothing.
    have hlasting : spec.Lasting thread (fun call => call.isRead = true)
        fun world => known fact loaded session messages openedBy world ∧ asked state world := by
      refine Spec.Lasting.and (hknown.of_imp fun {β call} hcall => ?_) (h.lasting_asked state)
      cases call with
      | read query => exact h.reports.query rfl
      | _ => cases hcall
    have read : ∀ {α : Type} (query : Store → α), spec.Keeps thread
        (fun world => known fact loaded session messages openedBy world ∧ asked state world)
        (perform (.read query)) :=
      fun query => .perform hlasting rfl fun world hinv hboth =>
        hpre (h.reports.query rfl) hinv hboth.1
    have ended : ∀ outcome : TurnOutcome, spec.Triple thread
        (fun world => known fact loaded session messages openedBy world ∧ asked state world)
        (.done outcome) fun _ => fact :=
      fun outcome => (h.ended session messages openedBy outcome).consequence
        (fun _ _ hboth => hboth.1) fun _ _ _ hdone => hdone
    refine Spec.Triple.bind _ (read _) (fun newer => ?_) fun _ _ _ hboth => hboth.1.1
    split
    · exact ended _
    refine Spec.Triple.bind _ (read _) (fun moved => ?_) fun _ _ _ hboth => hboth.1.1
    split
    · exact ended _
    · subst hstate
      exact h.decide session messages openedBy phase answers now hid hphase
  · have hclaims := (h.unavailable session now hid).bind fun _ : Bool =>
      Spec.Keeps.done h.lasting (TurnOutcome.judgeFailed failure)
    exact Spec.Triple.consequence hclaims (fun _ _ hboth => hboth.1) fun _ _ _ hdone => hdone

/-- The flood check comes first, then the judge. -/
theorem liveTurn (h : TurnWalk spec thread id allowed fact loaded flooding asked)
    {session : Session} (hid : session.sessionId = id) (messages : List Message)
    (openedBy : Initiator) {phase : Phase} (hphase : phaseOf session.state = some phase)
    (now : Int) :
    spec.Triple thread (known fact loaded session messages openedBy)
      (Serbero.liveTurn deployment session messages openedBy phase now) fun _ => fact := by
  unfold Serbero.liveTurn
  simp only []
  split
  · exact h.ended session messages openedBy _
  refine Spec.Triple.bind _ (h.flooded session messages openedBy phase now hid hphase) (fun flood => ?_)
    fun _ _ _ hboth => hboth.2.1 nofun
  cases flood with
  | true =>
    exact (h.flood session messages openedBy phase now hid hphase).consequence
      (fun _ _ hboth => ⟨hboth.1, hboth.2.2 rfl⟩) fun _ _ _ hdone => hdone
  | false =>
    exact (h.judgeTurn hid messages openedBy hphase now).consequence
      (fun _ _ hboth => ⟨hboth.2.1 nofun, hboth.1⟩) fun _ _ _ hdone => hdone

/-- A judge that is not ready ends the turn. -/
theorem mediatingTurn (h : TurnWalk spec thread id allowed fact loaded flooding asked)
    {session : Session} (hid : session.sessionId = id) (messages : List Message)
    (openedBy : Initiator) (now : Int) :
    spec.Triple thread (known fact loaded session messages openedBy)
      (Serbero.mediatingTurn deployment session messages openedBy now) fun _ => fact := by
  refine Spec.Triple.bind _ (h.keeps_known session messages openedBy (says_query h.reports rfl))
    (fun ready => ?_) fun _ _ _ hboth => hboth.1
  split
  · exact h.ended session messages openedBy _
  split
  · exact h.ended session messages openedBy _
  · next phase hphase => exact h.liveTurn hid messages openedBy hphase now

/-- A turn, by the state of the session it loads. -/
theorem runTurn (h : TurnWalk spec thread id allowed fact loaded flooding asked) (now : Int) :
    spec.Keeps thread fact (Serbero.runTurn deployment id now) := by
  have hload : spec.Learns thread fact (perform (.load id)) fun value world =>
      ∀ session messages openedBy, value = some (session, messages, openedBy) →
        session.sessionId = id ∧ loaded session messages openedBy world := by
    refine learns_look (fun store => store.load id) _ (fun _ _ => rfl) h.lasting
      (h.reports.query rfl) h.enough ?_ ?_
    · intro value world world' hvalue hrely session messages openedBy heq
      obtain ⟨hid, hloaded⟩ := hvalue session messages openedBy heq
      exact ⟨hid, (h.lasting_loaded session messages openedBy).rely hloaded hrely⟩
    · intro world oracle hinv hknown session messages openedBy heq
      exact ⟨Store.sessionId_of_load heq, h.load world oracle hinv hknown heq⟩
  refine Spec.Triple.bind _ hload (fun value => ?_) fun _ _ _ hknown => hknown.1
  match value with
  | none =>
    exact Spec.Triple.consequence (Spec.Keeps.done h.lasting _) (fun _ _ hknown => hknown.1)
      fun _ _ _ hknown => hknown
  | some (session, messages, openedBy) =>
    intro world hinv hknown
    -- What was loaded stays known while the turn goes on.
    obtain ⟨hid, hloaded⟩ := hknown.2 _ rfl session messages openedBy rfl
    have mediating := h.mediatingTurn hid messages openedBy now
    refine (?_ : spec.Triple thread (known fact loaded session messages openedBy) _ fun _ => fact)
      world hinv ⟨hknown.1, hloaded⟩
    simp only []
    split
    -- A handed-off session has its updates forwarded and no turn.
    · have hforward := Spec.Keeps.bind (h.keeps (says_forwardUpdates h.reports session now))
        fun count => Spec.Keeps.done h.lasting (TurnOutcome.forwarded count)
      exact Spec.Triple.consequence hforward (fun _ _ hboth => hboth.1) fun _ _ _ hdone => hdone
    · have hguides : spec.Keeps thread (known fact loaded session messages openedBy)
          (resendGuides deployment session) :=
        h.keeps_known session messages openedBy (says_resendGuides h.reports (hid ▸ h.guide))
      exact Spec.Triple.attempt_bind hguides fun _ => mediating
    · exact mediating

/-- **The task of a turn.** -/
theorem turnLogged (h : TurnWalk spec thread id allowed fact loaded flooding asked) :
    spec.Triple thread fact (Serbero.turnLogged deployment id) fun _ _ => True := by
  have hjoin : ∀ again, spec.Triple thread fact (perform (.joinTurn again)) fun _ _ => True :=
    fun again => .perform h.lasting.rely (h.join again) fun _ _ _ _ _ _ _ _ => trivial
  refine Spec.Triple.bind _ (h.keeps (says_query h.reports rfl)) (fun now => ?_)
    fun _ _ _ _ => trivial
  refine Spec.Triple.attempt_bind (h.runTurn now) fun outcome => ?_
  split
  · exact hjoin true
  · exact hjoin false

end TurnWalk

end Serbero
