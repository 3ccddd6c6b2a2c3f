import Serbero.Runtime.Floods
import Serbero.Runtime.Lifecycle
import Serbero.Runtime.Replies

/-! # Flooded sessions are handed off

A turn that counts a flood hands its session off before it ends. So between turns a session was
handed off for a flood exactly when some party has the strikes of one. -/

namespace Serbero

open Pool Relation
open Pool.Program

variable {deployment : Deployment} {thread : Thread Task}

/-! ## Parts without a need of their own -/

/-- A call that hands nothing off needs nothing. -/
theorem enough_placid (fact : World × List Window → Prop) :
    Enough (strikeSpec deployment) thread (placid deployment) fact := by
  intro β call world hplacid _ _
  cases call with
  | append new =>
    intro hrecords
    rw [show new.kind.isFloodStrike = false from hplacid] at hrecords
    cases hrecords
  | insertEvaluation new => exact fun hturn => absurd hplacid hturn
  | handOff session reason now => exact absurd hplacid not_false
  | joinTurn again => exact absurd hplacid not_false
  | _ => trivial

/-- A program of such calls keeps what lasts over them. -/
theorem keeps_placid {fact : World × List Window → Prop} {α : Type} {program : Daemon α}
    (hfact : (strikeSpec deployment).Lasting thread (placid deployment) fact)
    (h : Says deployment thread (placid deployment) program) :
    (strikeSpec deployment).Keeps thread fact program :=
  keeps_beside hfact (enough_placid fact) h

/-- A turn without a flood stays without one. -/
theorem lasting_unflooded_placid (id : SessionId) :
    (strikeSpec deployment).Lasting thread (placid deployment) (Unflooded thread.number id) :=
  (lasting_unflooded id).of_imp fun hplacid => mild_spares (mild_of_placid hplacid)

/-! ## The flood is handed off -/

/-- The thread runs the session's turn, and the session is flooded. -/
def Flooded (number : Nat) (id : SessionId) (world : World × List Window) : Prop :=
  world.1.Runs number id ∧ owes world id = true

/-- A flood waits for the turn that found it. -/
theorem Flooded.rely {number : Nat} {id : SessionId} {world later : World × List Window}
    (h : Flooded number id world) (hleft : Left deployment number world later) :
    Flooded number id later := by
  have hspared := hleft.turn id h.1
  exact ⟨hspared.runs, hspared.owes.trans h.2⟩

/-- While a flood is to be handed off, the turn's own part does not fail. -/
def Surely (number : Nat) (id : SessionId) {α : Type} (result : Except String α)
    (world : World × List Window) : Prop :=
  Flooded number id world ∧ ∃ value, result = .ok value

section

variable {id : SessionId}

/-- A value that is there already does not fail. -/
theorem surely_done {α : Type} (value : α) :
    (strikeSpec deployment).Triple thread (Flooded thread.number id) (.done value)
      (Surely thread.number id) :=
  .done (fun hsure hrely => ⟨hsure.1.rely hrely.2, hsure.2⟩) fun _ _ hflooded =>
    ⟨hflooded, value, rfl⟩

/-- Nor do two programs that do not. -/
theorem surely_bind {α β : Type} {program : Daemon α} {next : α → Daemon β}
    (h : (strikeSpec deployment).Triple thread (Flooded thread.number id) program
      (Surely thread.number id))
    (hnext : ∀ value, (strikeSpec deployment).Triple thread (Flooded thread.number id)
      (next value) (Surely thread.number id)) :
    (strikeSpec deployment).Triple thread (Flooded thread.number id) (program.bind next)
      (Surely thread.number id) := by
  refine Spec.Triple.bind _ h (fun value => ?_) fun failure world _ hsure => ?_
  · exact (hnext value).consequence (fun _ _ hsure => hsure.1) fun _ _ _ hsure => hsure
  · obtain ⟨-, value, hvalue⟩ := hsure
    cases hvalue

/-- A query does not fail while a flood is to be handed off. -/
theorem surely_read {α : Type} (query : Store → α) :
    (strikeSpec deployment).Triple thread (Flooded thread.number id) (perform (.read query))
      (Surely thread.number id) := by
  refine .perform (fun hflooded hrely => hflooded.rely hrely.2) (fun _ _ _ => trivial) ?_
  intro world oracle later _ hflooded hcond hrely _
  have hfails := (completed_call (completed_of_manned hcond) hflooded.1).2 rfl hflooded.2
  rw [beside_read hfails] at hrely ⊢
  have hlook : Flooded thread.number id (world.1.look thread.number, world.2) := hflooded
  exact ⟨hlook.rely hrely.2, _, rfl⟩

/-- Nor does asking whether the judge is ready. -/
theorem surely_readyJudge :
    (strikeSpec deployment).Triple thread (Flooded thread.number id) (perform .readyJudge)
      (Surely thread.number id) := by
  refine .perform (fun hflooded hrely => hflooded.rely hrely.2) (fun _ _ _ => trivial) ?_
  intro world oracle later _ hflooded _ hrely _
  have hsame : Flooded thread.number id
      ((strikeLog deployment).beside.perform thread .readyJudge oracle world).2 := by
    change Flooded thread.number id
      (world.1, noteStrike deployment thread.number .readyJudge oracle world.1 world.2)
    rw [noteStrike_of_not rfl]
    exact hflooded
  exact ⟨hsame.rely hrely.2, world.1.judgeReady, rfl⟩

/-- The last reading of a flooded session. -/
theorem surely_lastReading (session : Session) (messages : List Message) :
    (strikeSpec deployment).Triple thread (Flooded thread.number id)
      (lastReading deployment session messages) (Surely thread.number id) := by
  refine surely_bind surely_readyJudge fun ready => ?_
  split
  · exact surely_done none
  · refine surely_bind (surely_read _) fun read => ?_
    obtain ⟨last, openedBy⟩ := read
    cases last with
    | none => exact surely_done none
    | some last =>
      cases openedBy with
      | none => exact surely_done none
      | some openedBy => exact surely_done _

/-- **A flood is handed off.** -/
theorem handOff_flooded {session : Session} (last : Option TurnReading) (now : Int) :
    (strikeSpec deployment).Triple thread (Flooded thread.number session.sessionId)
      (handOff deployment session .flood last now)
      fun _ => Unflooded thread.number session.sessionId := by
  have hclaim : (strikeSpec deployment).Triple thread (Flooded thread.number session.sessionId)
      (perform (.handOff session .flood now)) fun _ => Unflooded thread.number session.sessionId := by
    refine .perform (fun hflooded hrely => hflooded.rely hrely.2) ?_ ?_
    · intro world _ hflooded
      have howes := hflooded.2
      rw [owes, Bool.and_eq_true] at howes
      exact ⟨fun _ => howes.1, fun hother => absurd rfl hother⟩
    · intro world oracle later _ hflooded hcond hrely _
      have hfails := (completed_call (completed_of_manned hcond) hflooded.1).2 rfl hflooded.2
      refine (lasting_unflooded session.sessionId).rely ⟨?_, ?_⟩ hrely
      · exact runs_performCall hflooded.1 (Or.inr rfl)
      · -- What is not mediated owes nothing.
        change (_ && (performCall deployment thread (.handOff session .flood now) oracle
          world.1).2.mediates session.sessionId) = false
        rw [mediates_handOff session .flood now hfails, Bool.and_false]
  refine Spec.Triple.bind _ hclaim (fun claimed => ?_) fun _ _ _ hunflooded => hunflooded
  have rest : ∀ {α : Type} {program : Daemon α}, Says deployment thread (placid deployment) program →
      (strikeSpec deployment).Keeps thread (Unflooded thread.number session.sessionId) program :=
    fun hmakes => keeps_placid (lasting_unflooded_placid session.sessionId) hmakes
  have told : Says deployment thread (placid deployment)
      (forEach (tellHandoff deployment session) Party.both) :=
    .forEach fun party _ => says_tellHandoff briefs_placid.reports
      (fun other => send_placid session.sessionId other .handoffNotice) party
  cases claimed with
  | none => exact Spec.Keeps.done (lasting_unflooded session.sessionId) false
  | some pending =>
    refine Spec.Keeps.bind (rest (says_briefSolvers briefs_placid session _ last now))
      fun delivered => ?_
    split
    · exact rest (.bind (says_briefDelivered briefs_placid.reports session pending now)
        fun _ _ => .bind told fun _ _ => trivial)
    · exact rest (.bind told fun _ _ => trivial)

end

/-! ## Turns -/

/-- What a decision does is mild, unless it hands off a flood. -/
theorem says_act_mild (session : Session) (reading : TurnReading) (next : NextQuestions) (now : Int)
    {action : Action} (haction : action ≠ .handoff .flood) :
    Says deployment thread (mild deployment)
      (act deployment session reading next now action) := by
  have reports : AllowsReports (mild deployment) := briefs_mild.reports
  cases action with
  | ask buyer seller =>
    refine .bind (.foldEach (fun firstInTurn party _ => ?_) true) fun _ _ => trivial
    refine .bind (.forEach fun template _ => says_sendTemplate reports (send_mild _ _ _))
      fun _ _ => ?_
    split
    · exact .bind (.perform trivial fun _ _ => trivial) fun _ _ => trivial
    · exact trivial
  | handoff reason =>
    have hreason : reason ≠ .flood := by
      rintro rfl
      exact haction rfl
    exact .bind (says_handOff briefs_mild (fun party => send_mild _ party _) _ hreason)
      fun _ _ => trivial
  | guide path =>
    exact says_guide briefs_mild (fun _ _ _ => send_mild _ _ _) reading trivial
  | hold =>
    exact .bind (says_query reports rfl) fun started _ =>
      says_hold reports (fun party => send_mild _ party _) trivial
  | wait => exact trivial

section

variable {id : SessionId}

/-- A mild part of a turn whose session is not flooded. -/
theorem keeps_mild (hrole : thread.role = .turn id) {α : Type} {program : Daemon α}
    (h : Says deployment thread (mild deployment) program) :
    (strikeSpec deployment).Keeps thread (Unflooded thread.number id) program := by
  refine keeps_beside ((lasting_unflooded id).of_imp mild_spares) (enough_mild ?_) h
  intro other world hother hunflooded
  rw [hrole] at hother
  cases hother
  exact hunflooded.2

/-- The evaluation of a turn is recorded while the turn runs. -/
theorem insertEvaluation_unflooded {new : NewEvaluation} (hid : new.sessionId = id) :
    (strikeSpec deployment).Keeps thread (Unflooded thread.number id)
      (perform (.insertEvaluation new)) := by
  have hlasting : (strikeSpec deployment).Lasting thread
      (fun call => call.recordsStrike = false ∧ call.ends = false)
      (Unflooded thread.number id) := lasting_unflooded id
  refine .perform hlasting ⟨rfl, rfl⟩ fun world _ hunflooded _ => ?_
  rw [hid]
  exact hunflooded.1

/-- A turn without a flood decides as any other. -/
theorem decideAndAct_unflooded (hrole : thread.role = .turn id) {session : Session}
    (hid : session.sessionId = id) (messages : List Message) (phase : Phase) (state : JudgeState)
    (answers : Answers) (now : Int) :
    (strikeSpec deployment).Keeps thread (Unflooded thread.number id)
      (decideAndAct deployment session messages phase state answers now) := by
  have reports : AllowsReports (mild deployment) := briefs_mild.reports
  have hset : ∀ party lang now, mild deployment (.setLanguage session.sessionId party lang now) :=
    fun _ _ _ => trivial
  refine .bind (keeps_mild hrole (says_updateLanguages hset _ now)) fun changed => ?_
  have hreload : (strikeSpec deployment).Learns thread (Unflooded thread.number id)
      (reload session.sessionId) fun current _ => current.sessionId = session.sessionId := by
    refine learns_of_makes ((lasting_unflooded id).of_imp mild_spares) (enough_mild ?_)
      (makes_reload (reports.query rfl))
    intro other world hother hunflooded
    rw [hrole] at hother
    cases hother
    exact hunflooded.2
  refine Spec.Triple.bind _ hreload (fun current => ?_) fun _ _ _ hknown => hknown.1
  intro world hinv hknown
  -- The row was read again; it is the same session's.
  have hcurrent : current.sessionId = id := (hknown.2 current rfl).trans hid
  refine (?_ : (strikeSpec deployment).Keeps thread (Unflooded thread.number id) _) world hinv
    hknown.1
  refine .bind (keeps_mild hrole (says_query reports rfl)) fun events => ?_
  refine .bind (insertEvaluation_unflooded hcurrent) fun _ => ?_
  exact .bind (keeps_mild hrole (says_act_mild current _ _ now (Turn.decide_ne_flood _)))
    fun _ => Spec.Keeps.done (lasting_unflooded id) _

/-- What a turn loaded is its session as stored. -/
theorem fetched_load {session : Session} {messages : List Message} {openedBy : Initiator}
    (oracle : Oracle) (world : World × List Window) (hruns : world.1.Runs thread.number id)
    (hload : world.1.store.load id = some (session, messages, openedBy)) :
    Fetched thread.number session messages
      ((strikeLog deployment).beside.perform thread (.load id) oracle world).2 := by
  obtain ⟨row, hrow, hrest⟩ := Option.bind_eq_some_iff.mp hload
  obtain ⟨dispute, -, heq⟩ := Option.map_eq_some_iff.mp hrest
  cases heq
  have hid := Store.sessionId_of_session hrow
  subst hid
  have hfetched : Fetched thread.number session
      (world.1.store.listMessages session.sessionId) world := by
    refine ⟨hruns, fun hphase => ?_, ⟨session, hrow, rfl⟩,
      (perm_conversationOrder _).subperm⟩
    rw [World.mediates, hrow, Option.any_some]
    cases hstate : session.state <;> simp_all [phaseOf, SessionState.isMediating]
  refine hfetched.grow (runs_performCall hruns (Or.inr rfl)) ?_ (performCall_grows deployment _ _ _ _)
  change (world.1.orFail oracle _).2.mediates session.sessionId = _
  unfold World.orFail
  split <;> rfl

/-- **A turn hands its flood off** before it ends. -/
theorem turn_strikes (hrole : thread.role = .turn id) :
    TurnWalk (strikeSpec deployment) thread id (placid deployment) (Unflooded thread.number id)
      (fun session messages _ => Fetched thread.number session messages)
      (fun session world => floods world.2 session.sessionId = true) (fun _ _ => True) where
  lasting := lasting_unflooded_placid id
  enough := enough_placid _
  reports := briefs_placid.reports
  guide _ _ _ := send_placid id _ _
  lasting_loaded session messages _ := lasting_fetched session messages
  load world oracle _ hunflooded hload := fetched_load oracle world hunflooded.1 hload
  flooded session messages _ phase now hid hphase := by
    subst hid
    have hlive : phaseOf session.state ≠ none := by simp [hphase]
    refine (flooded_counted now).consequence
      (fun world _ hknown => ⟨hknown, hknown.2.mediates hlive⟩) fun result world _ hcounted => ?_
    obtain ⟨strikes, counted, hcounted⟩ := hcounted
    cases result with
    | error failure => exact ⟨hcounted.1, fun _ => hcounted.2, fun hflood => by cases hflood⟩
    | ok flood =>
      -- The strikes that were counted are exactly the ones the rows give.
      have hreckons : Reckons deployment thread.number session messages strikes counted [] flood
        world := hcounted
      refine ⟨hreckons.fetched, fun hnot => ?_, fun hflood => ?_⟩
      · cases flood with
        | false => exact hreckons.unflooded
        | true => exact absurd rfl hnot
      · cases hflood
        exact hreckons.floods.symm
  flood session messages _ phase now hid hphase := by
    subst hid
    have hlive : phaseOf session.state ≠ none := by simp [hphase]
    refine Spec.Triple.bind _ ((surely_lastReading session messages).consequence
      (fun world _ hknown => ⟨hknown.1.runs, ?_⟩) fun _ _ _ hsure => hsure) (fun last => ?_) ?_
    -- The hand-off is owed from here on, until it is done.
    · rw [owes, hknown.2, hknown.1.mediates hlive]
      rfl
    · refine Spec.Triple.bind (fun _ => Unflooded thread.number session.sessionId)
        ((handOff_flooded last now).consequence (fun _ _ hsure => hsure.1) fun _ _ _ hdone => hdone)
        (fun _ => ?_) fun _ _ _ hdone => hdone
      exact Spec.Keeps.done (lasting_unflooded session.sessionId) _
    · rintro failure world - ⟨-, value, hvalue⟩
      cases hvalue
  unavailable session now hid := by
    subst hid
    -- A hand-off for want of a judge is no flood hand-off.
    exact keeps_mild hrole (says_handOff briefs_mild (fun party => send_mild _ party _) none
      (show HandoffReason.judgeUnavailable ≠ .flood by decide))
  lasting_asked _ := Spec.Lasting.true
  judge _ _ _ _ _ _ := trivial
  decide session messages _ phase answers now hid _ :=
    (decideAndAct_unflooded hrole hid messages phase _ answers now).consequence
      (fun _ _ hknown => hknown.1.1) fun _ _ _ hdone => hdone
  join again world _ hunflooded other hother := by
    rw [hrole] at hother
    cases hother
    exact hunflooded.2

end

/-! ## Every task -/

/-- An opening given up is mild. -/
theorem giveUp_mild (dispute : DisputeId) : MayGiveUp (mild deployment) dispute :=
  ⟨fun htells => mild_of_placid (tell_placid dispute _ htells), fun _ => rfl⟩

/-- So is a closing. -/
theorem close_mild : MayClose deployment (mild deployment) :=
  ⟨trivial, trivial, fun _ => trivial, fun id party => send_mild id party _,
    fun dispute => fun htells => mild_of_placid (tell_placid dispute _ htells), fun _ _ _ _ => rfl⟩

/-- A task that is no turn does nothing but what is mild. -/
theorem says_mild {task : Task} (hturn : ∀ id, task ≠ .turn id) :
    Says deployment thread (mild deployment) (program deployment task) := by
  have reports : AllowsReports (mild deployment) := briefs_mild.reports
  have tells : ∀ dispute notification, MayTell (mild deployment) dispute notification :=
    fun dispute notification => fun htells =>
      mild_of_placid (tell_placid dispute notification htells)
  have consider : MayConsider deployment (mild deployment) :=
    { insert := fun _ _ _ _ => trivial
      openChat := fun _ => trivial
      closeChat := fun _ => trivial
      greet := fun id _ _ => send_mild id _ _
      abandon := fun _ _ _ _ => trivial
      activate := fun _ _ _ => trivial
      started := fun _ => tells _ _
      opened := fun _ _ _ => rfl
      giveUp := giveUp_mild
      claim := fun _ _ _ => trivial
      take := fun _ => trivial
      notOpened := fun _ _ _ => rfl
      release := fun _ => trivial }
  have notify : MayNotify (mild deployment) :=
    ⟨fun dispute _ _ => tells dispute _, fun _ _ => trivial, fun _ _ => trivial, fun _ => trivial⟩
  -- Only a tick passes the timers; the other tasks send and record what anyone may.
  by_cases htick : task = .tick
  · subst htick
    refine .bind (says_query reports rfl) fun now _ => ?_
    refine .bind (says_attempt ?_) fun _ _ => .perform trivial fun _ _ => trivial
    exact says_tick briefs_mild (fun _ => trivial) (fun id party => send_mild id party _)
      (fun id => ⟨fun party => send_mild id party _, fun _ _ _ => send_mild id _ _,
        fun party => send_mild id party _⟩) (fun _ _ _ hreason => hreason) close_mild giveUp_mild now
  · refine says_others reports hturn htick ?_
    cases task with
    | consider dispute => exact consider
    | judgeChecks started => exact ⟨consider, trivial⟩
    | turn id => exact absurd rfl (hturn id)
    | tick => exact absurd rfl htick
    | handleEvent dispute => exact notify
    | remind renotifyAfter => exact notify
    | finish dispute status byParties => exact close_mild
    | finishPending => exact close_mild
    | resume => exact fun _ => trivial

/-- Nothing is owed to a session of which no turn runs. -/
theorem Struck.owes_of_rested {world : World} {windows : List Window}
    (h : Struck deployment world windows) (hinv : world.core.Inv) {id : SessionId}
    (hrested : world.Rested id) : owes (world, windows) id = false := by
  rw [owes, Bool.and_eq_false_iff]
  by_contra hboth
  simp only [not_or, Bool.not_eq_false] at hboth
  obtain ⟨row, hrow, hflood | ⟨-, number, hruns⟩⟩ := h.owed id hboth.1
  · obtain ⟨found, hfound, hmediating⟩ := (mediates_iff hinv).mp hboth.2
    rw [hrow, Option.some.injEq] at hfound
    subst hfound
    rw [reason_of_mediating hinv hrow hmediating] at hflood
    cases hflood
  · exact hrested number hruns

/-- **Every task keeps the windows.** -/
theorem strike_launches (deployment : Deployment) :
    (strikeExtension deployment).contract.Launches := by
  have hbase : (contract deployment Condition.always).Launches :=
    launches deployment Condition.always
  have hbeside : (strikeContract deployment).Launches :=
    hbase.beside (Condition.within_always (mannedBoth (completed deployment)))
  apply Extension.launches hbeside
  intro thread oracle world world' hinv hstruck hcond hlaunch
  have hinv' : (strikeSpec deployment).inv world' :=
    ⟨(strikeContract deployment).launch_inv hinv hcond hlaunch,
      (strikeExtension deployment).launch_inv hinv hstruck hcond hlaunch⟩
  obtain ⟨halone, hnotes⟩ := (strikeLog deployment).launch_cases hlaunch
  by_cases hturn : ∃ id, thread.role = .turn id
  · obtain ⟨id, hrole⟩ := hturn
    obtain ⟨hrested, hadded⟩ := launch_turn hrole halone
    have hunflooded : Unflooded thread.number id world' := by
      refine ⟨?_, ?_⟩
      · rw [World.Runs, hadded]
        exact List.mem_append_right _ List.mem_cons_self
      · have hnone := hstruck.owes_of_rested hinv hrested
        rw [owes, World.mediates] at hnone ⊢
        rw [hnotes, (launch_traffic halone).1]
        exact hnone
    have hwalk := (turn_strikes hrole).turnLogged world' hinv' hunflooded
    rw [hrole]
    exact hwalk
  · have hother : ∀ id, thread.role ≠ .turn id := fun id hrole => hturn ⟨id, hrole⟩
    have hpre : Enough (strikeSpec deployment) thread (mild deployment) fun _ => True :=
      @enough_mild deployment thread _ fun id _ hrole _ => absurd hrole (hother id)
    have hkeeps := keeps_beside Spec.Lasting.true hpre (says_mild hother)
    exact hkeeps world' hinv' trivial

/-! ## Runs -/

/-- The first start, without strikes. -/
def strikeStart (clock : Int) : Conf Call String Task (World × List Window) :=
  ⟨(World.start clock, []), []⟩

/-- No strike at the start. -/
theorem Struck.start (clock : Int) : Struck deployment (World.start clock) [] where
  seated := List.nodup_nil
  recorded := rfl
  placed event hevent := absurd hevent List.not_mem_nil
  apart := List.Pairwise.nil
  unjudged window hwindow := absurd hwindow List.not_mem_nil
  large window hwindow := absurd hwindow List.not_mem_nil
  claimed id row hrow := by simp [World.core, World.start, Store.empty] at hrow
  owed id hfloods := by
    obtain ⟨party, hcount⟩ := floods_iff.mp hfloods
    rw [List.countP_nil] at hcount
    exact absurd hcount (by decide)

/-- Every state that a run of completed turns reaches keeps the windows. -/
theorem struck_of_run {clock : Int} {conf : Conf Call String Task (World × List Window)}
    (hrun : (strikeLog deployment).beside.RunsTo (completed deployment) (strikeStart clock) conf) :
    (strikeExtension deployment).contract.Kept conf := by
  have hstart : (strikeExtension deployment).contract.Kept (strikeStart clock) :=
    Contract.kept_of_start ⟨inv_start clock, .start clock⟩
  exact (hstart.run (strike_launches deployment) (runsTo_manned hrun)).1

/-- Windows of one party that lie after one another share no message. -/
theorem Window.disjoint_of_apart {earlier later : Window}
    (h : earlier.sessionId = later.sessionId → earlier.party = later.party →
      earlier.last ≤ later.after) (hparty : earlier.party = later.party) (message : Message) :
    ¬(earlier.covers message = true ∧ later.covers message = true) := by
  rintro ⟨hearlier, hlater⟩
  simp only [Window.covers, Bool.and_eq_true, beq_iff_eq, decide_eq_true_eq] at hearlier hlater
  have hid : earlier.sessionId = later.sessionId := hearlier.1.1.1.symm.trans hlater.1.1.1
  have hafter := h hid hparty
  have hlast := hearlier.2
  have hfirst := hlater.1.2
  omega

/-- **Flood strikes count each message once.** In every run of completed turns the windows behind
the recorded strikes hold more than the limit each, those of one party share no message, and none
holds a message that a turn evaluation covered before it; and a session of which no turn runs was
handed off for a flood exactly when some party has the strikes of one. -/
theorem strikes_count_once {clock : Int} {conf : Conf Call String Task (World × List Window)}
    (hrun : (strikeLog deployment).beside.RunsTo (completed deployment) (strikeStart clock) conf) :
    conf.world.2.map Window.strike = conf.world.1.store.strikes ∧
      (conf.world.2.Pairwise fun earlier later => earlier.party = later.party →
        ∀ message, ¬(earlier.covers message = true ∧ later.covers message = true)) ∧
      (∀ window ∈ conf.world.2,
        deployment.settings.maxMessagesPerTurn < window.size conf.world.1.store.messages ∧
          ∀ message, window.covers message = true → window.judged < message.id) ∧
      ∀ id row, conf.world.1.store.session id = some row →
        (row.handoffReason = some .flood → floods conf.world.2 id = true) ∧
          (conf.world.1.Rested id → floods conf.world.2 id = true →
            row.handoffReason = some .flood) := by
  have hkept := struck_of_run hrun
  have hinv : conf.world.1.core.Inv := hkept.1.1
  have hstruck : Struck deployment conf.world.1 conf.world.2 := hkept.1.2
  refine ⟨hstruck.recorded, ?_, fun window hwindow => ⟨hstruck.large window hwindow, ?_⟩, ?_⟩
  · exact hstruck.apart.imp fun hapart hparty message =>
      Window.disjoint_of_apart hapart hparty message
  · intro message hcovers
    simp only [Window.covers, Bool.and_eq_true, decide_eq_true_eq] at hcovers
    exact lt_of_le_of_lt (hstruck.unjudged window hwindow) hcovers.1.2
  · intro id row hrow
    rw [hinv.session_eq] at hrow
    refine ⟨hstruck.claimed id row hrow, fun hrested hfloods => ?_⟩
    obtain ⟨found, hfound, hflood | ⟨-, number, hruns⟩⟩ := hstruck.owed id hfloods
    · rw [hrow, Option.some.injEq] at hfound
      rw [hfound]
      exact hflood
    · exact absurd hruns (hrested number)

/-- A deployment that allows a party one message in a turn. -/
def sparing : Deployment :=
  { smallDeployment with
    settings := { smallDeployment.settings with maxMessagesPerTurn := 1 } }

/-- Twice the buyer writes two messages before a turn. -/
def floodedSteps : List (Choice Task Oracle Happening) :=
  openedSteps ++ [.happen (.clock 1010), writes 1 .buyer 1010, writes 2 .buyer 1010, .happen .touch,
    .launch (.turn 0) .quiet] ++ quietly 3 18 ++
    [.happen (.clock 1100), writes 3 .buyer 1100, writes 4 .buyer 1100, .happen .touch,
      .launch (.turn 0) .quiet] ++ quietly 4 33

def floodedConf : Conf Call String Task (World × List Window) :=
  (strikeLog sparing).beside.after (completed sparing) (strikeStart 1000)
    (floodedSteps.map Choice.beside)

/-- The buyer's two strikes are of disjoint windows, and the second one hands the session off. -/
theorem strikes_count_once_twice :
    floodedConf.world.2 = [⟨0, .buyer, 0, 4, 0⟩, ⟨0, .buyer, 4, 7, 4⟩] ∧
      (floodedConf.world.1.store.session 0).map Session.handoffReason = some (some .flood) ∧
      (floodedConf.world.2.map Window.strike = floodedConf.world.1.store.strikes ∧
        (floodedConf.world.2.Pairwise fun earlier later => earlier.party = later.party →
          ∀ message, ¬(earlier.covers message = true ∧ later.covers message = true)) ∧
        (∀ window ∈ floodedConf.world.2,
          sparing.settings.maxMessagesPerTurn <
              window.size floodedConf.world.1.store.messages ∧
            ∀ message, window.covers message = true → window.judged < message.id) ∧
        ∀ id row, floodedConf.world.1.store.session id = some row →
          (row.handoffReason = some .flood → floods floodedConf.world.2 id = true) ∧
            (floodedConf.world.1.Rested id → floods floodedConf.world.2 id = true →
              row.handoffReason = some .flood)) :=
  ⟨by decide +kernel, by decide +kernel,
    strikes_count_once ((strikeLog sparing).beside.runsTo_after (by decide +kernel))⟩

end Serbero
