import Serbero.Runtime.Strikes
import Serbero.Runtime.Walks

/-! # Floods over whole runs

Each turn records its strikes above the watermark it read, and hands its session off when one of
them is a party's last one. -/

namespace Serbero

open Pool Relation
open Pool.Program

variable {deployment : Deployment} {thread : Thread Task}

/-! ## What the others leave to a turn -/

/-- What stays of a running turn's session while others act. -/
structure Spared (deployment : Deployment) (number : Nat) (id : SessionId)
    (world later : World × List Window) : Prop where
  runs : later.1.Runs number id
  windows : (later.2.filter fun window => window.sessionId == id) =
    world.2.filter fun window => window.sessionId == id
  judged : later.1.store.judgedUpTo deployment id = world.1.store.judgedUpTo deployment id
  mediates : later.1.mediates id = world.1.mediates id

namespace Spared

variable {number : Nat} {id : SessionId} {world later : World × List Window}

/-- What others spare in two moves they spare. -/
theorem trans {last : World × List Window} (h : Spared deployment number id world later)
    (h' : Spared deployment number id later last) : Spared deployment number id world last :=
  ⟨h'.runs, h'.windows.trans h.windows, h'.judged.trans h.judged, h'.mediates.trans h.mediates⟩

/-- What leaves the log and the tables alone. -/
theorem of_same (hruns : later.1.Runs number id) (hwindows : later.2 = world.2)
    (hevaluations : later.1.store.evaluations = world.1.store.evaluations)
    (hsessions : later.1.store.sessions = world.1.store.sessions) :
    Spared deployment number id world later where
  runs := hruns
  windows := by rw [hwindows]
  judged := by rw [Store.judgedUpTo, Store.listEvaluations, hevaluations]; rfl
  mediates := by rw [World.mediates, Store.session, hsessions]; rfl

/-- Nobody else marks the session flooded. -/
theorem floods (h : Spared deployment number id world later) :
    Serbero.floods later.2 id = Serbero.floods world.2 id := by
  rw [← floods_filter, h.windows, floods_filter]

/-- Nobody else settles what is owed for the flood. -/
theorem owes (h : Spared deployment number id world later) :
    Serbero.owes later id = Serbero.owes world id := by
  rw [Serbero.owes, h.floods, h.mediates, Serbero.owes]

end Spared

/-- What others leave to a thread. -/
structure Left (deployment : Deployment) (number : Nat) (world later : World × List Window) :
    Prop where
  grows : world.1.store.Grows later.1.store
  looked : later.1.lastLook number = world.1.lastLook number
  turn : ∀ id, world.1.Runs number id → Spared deployment number id world later

/-- What others leave in two moves they leave. -/
theorem Left.trans {number : Nat} {world later last : World × List Window}
    (h : Left deployment number world later) (h' : Left deployment number later last) :
    Left deployment number world last :=
  ⟨h.grows.trans h'.grows, h'.looked.trans h.looked,
    fun id hruns => (h.turn id hruns).trans (h'.turn id (h.turn id hruns).runs)⟩

/-- The call records a turn evaluation of the session. -/
def Call.judgesTurn {β : Type} (call : Call β) (deployment : Deployment) (id : SessionId) : Bool :=
  match call with
  | .insertEvaluation new =>
    new.sessionId == id && new.questionSetVersion != deployment.briefQuestions
  | _ => false

/-- No other evaluation counts for the session. -/
theorem judgedUpTo_performCall {β : Type} {call : Call β} {id : SessionId}
    (h : call.judgesTurn deployment id = false) (oracle : Oracle) (world : World) :
    (performCall deployment thread call oracle world).2.store.judgedUpTo deployment id =
      world.store.judgedUpTo deployment id := by
  by_cases hjudges : call.judges = true
  · cases call with
    | insertEvaluation new =>
      simp only [performCall, World.underLock, World.orFail]
      cases oracle.fails with
      | some failure => rfl
      | none =>
        have hpicked : ∀ row : Evaluation,
            (row.ofTurn deployment && row.sessionId == id) = false →
              ((world.store.evaluations ++ [row]).filter (·.sessionId == id)).filter
                  (fun evaluation => evaluation.ofTurn deployment) =
                (world.store.evaluations.filter (·.sessionId == id)).filter
                  fun evaluation => evaluation.ofTurn deployment := by
          intro row hrow
          rw [List.filter_filter, List.filter_filter, List.filter_append, List.filter_singleton,
            hrow, cond_false, List.append_nil]
        rw [Call.judgesTurn, Bool.and_comm] at h
        change (world.store.insertEvaluation new).judgedUpTo deployment id = _
        unfold Store.judgedUpTo Store.listEvaluations Store.insertEvaluation
        rw [hpicked]
        exact h
    | _ => cases hjudges
  · have hsame := performCall_evaluations deployment thread call (by simpa using hjudges) oracle world
    rw [Store.judgedUpTo, Store.listEvaluations, hsame]
    rfl

/-- A turn that strikes or judges is the only one of its session that does. -/
theorem spared_performCall {β : Type} {call : Call β} {oracle : Oracle}
    {world : World × List Window} (h : Struck deployment world.1 world.2)
    (hpre : StrikeNeeds deployment thread call world)
    (hcond : (completed deployment).call thread call oracle world = true) {number : Nat}
    (hother : number ≠ thread.number) {id : SessionId} (hruns : world.1.Runs number id) :
    Spared deployment number id world
      ((strikeLog deployment).beside.perform thread call oracle world).2 where
  runs := runs_performCall hruns (Or.inl hother)
  windows := by
    change ((noteStrike deployment thread.number call oracle world.1 world.2).filter _) = _
    by_cases hrecords : call.recordsStrike = true
    · cases call with
      | append new =>
        obtain ⟨strike, hstrike⟩ := hpre hrecords
        -- The session runs in its own thread only, so another's strike is not its own.
        have hid : (strike.1 == id) = false := by
          rw [beq_eq_false_iff_ne]
          rintro rfl
          exact hother (h.seated.eq_of_runs hruns hstrike.runs)
        unfold noteStrike
        split
        · rfl
        · simp [hstrike.kind, List.filter_append, World.window, hid]
      | _ => cases hrecords
    · rw [noteStrike_of_not (by simpa using hrecords)]
  -- A turn is judged by the thread that runs it.
  judged := by
    refine judgedUpTo_performCall ?_ oracle world.1
    cases call with
    | insertEvaluation new =>
      simp only [Call.judgesTurn, Bool.and_eq_false_iff, beq_eq_false_iff_ne, bne_eq_false_iff_eq]
      by_cases hturn : new.questionSetVersion = deployment.briefQuestions
      · exact Or.inr hturn
      · left
        rintro rfl
        exact hother (h.seated.eq_of_runs hruns (hpre hturn))
    | _ => rfl
  -- Nobody else may end the mediation while the turn runs.
  mediates := by
    rcases (completed_call hcond hruns).1 with ⟨hself, -⟩ | hkept
    · exact absurd hself hother
    · exact hkept

/-! ## The daemon beside the log -/

/-- The daemon beside the log. -/
def strikeExtension (deployment : Deployment) : Extension (strikeContract deployment) where
  inv world := Struck deployment world.1 world.2
  pre thread call world := StrikeNeeds deployment thread call world
  rely thread world later := Left deployment thread.number world later
  rely_refl _ world := ⟨.refl world.1.store, rfl, fun _ hruns => .of_same hruns rfl rfl rfl⟩
  rely_trans _ _ h h' := h.trans h'
  call_inv hinv h hneeds hpre hcond := by
    rw [mannedBoth, Bool.and_eq_true] at hcond
    exact h.performCall hinv hneeds hpre hcond.1 hcond.2
  call_rely _ h _ hpre hcond hother := by
    rw [mannedBoth, Bool.and_eq_true] at hcond
    -- Another thread's calls leave this one's last look, and strike only sessions it does not run.
    exact ⟨performCall_grows deployment _ _ _ _, lastLook_performCall _ _ _ hother,
      fun id hruns => spared_performCall h hpre hcond.1 hother hruns⟩
  launch_inv hinv h _ hlaunch := by
    obtain ⟨halone, hnotes⟩ := (strikeLog deployment).launch_cases hlaunch
    rw [hnotes]
    exact h.launch hinv halone
  launch_rely {thread other oracle world later} _ _ _ hlaunch := by
    obtain ⟨halone, hnotes⟩ := (strikeLog deployment).launch_cases hlaunch
    have hstore := (launch_traffic halone).1
    refine ⟨.of_eq (by rw [hstore]) (by rw [hstore]) (by rw [hstore]), ?_,
      fun id hruns => .of_same ?_ hnotes (by rw [hstore]) (by rw [hstore])⟩
    · rw [World.lastLook, launch_looks halone]
      rfl
    -- A launch adds a running turn; it takes none away.
    · rcases launch_running halone with hsame | ⟨started, -, -, hadded⟩
      · rw [World.Runs, hsame]
        exact hruns
      · rw [World.Runs, hadded]
        exact List.mem_append_left _ hruns
  happen_inv hinv h _ hhappen := by
    rcases (strikeLog deployment).happen_cases hhappen with ⟨_, -, halone, hnotes⟩ | ⟨deed, -⟩
    · rw [hnotes]
      exact h.happen hinv halone
    · exact nomatch deed
  happen_rely {event other world later} _ _ _ hhappen := by
    rcases (strikeLog deployment).happen_cases hhappen with ⟨_, -, halone, hnotes⟩ | ⟨deed, -⟩
    · obtain ⟨messages, hstore⟩ := happen_store halone
      refine ⟨happen_grows halone, ?_,
        fun id hruns => .of_same ?_ hnotes (by rw [hstore]) (by rw [hstore])⟩
      · rw [World.lastLook, happen_looks halone]
        rfl
      · rw [World.Runs, happen_running halone]
        exact hruns
    · exact nomatch deed
  restart_inv hinv h hcond := h.restart hinv hcond

/-- What is known of a task beside the log. -/
abbrev strikeSpec (deployment : Deployment) :
    Spec (strikeLog deployment).beside (mannedBoth (completed deployment)) :=
  (strikeExtension deployment).news

/-! ## Everything else -/

/-- The call records no strike and no turn evaluation, ends no turn, and hands nothing off for a
flood. -/
def mild (deployment : Deployment) {β : Type} (call : Call β) : Prop :=
  match call with
  | .append new => new.kind.isFloodStrike = false
  | .insertEvaluation new => new.questionSetVersion = deployment.briefQuestions
  | .handOff _ reason _ => reason ≠ .flood
  | .joinTurn _ => False
  | _ => True

/-- Nor does it hand a session off at all. -/
def placid (deployment : Deployment) {β : Type} (call : Call β) : Prop :=
  match call with
  | .handOff _ _ _ => False
  | call => mild deployment call

/-- A placid call is mild. -/
theorem mild_of_placid {β : Type} {call : Call β} (h : placid deployment call) :
    mild deployment call := by
  cases call <;> first | exact h | exact absurd h not_false

/-- What the solvers are told is recorded as no strike. -/
theorem tell_placid (dispute : DisputeId) (notification : String) :
    MayTell (placid deployment) dispute notification := by
  intro β call htells
  cases call with
  | append new =>
    obtain ⟨-, -, solver, hsent | hfailed⟩ := htells
    · change new.kind.isFloodStrike = false
      rw [hsent]
      rfl
    · change new.kind.isFloodStrike = false
      rw [hfailed]
      rfl
  | sendDm solver about text => trivial
  | _ => exact absurd htells not_false

/-- What the parties are sent strikes nobody. -/
theorem send_placid (id : SessionId) (party : Party) (template : Template) :
    MaySend deployment (placid deployment) id party template := by
  intro β call hsends
  cases call <;> trivial

/-- Briefs and the queries behind them strike nobody. -/
theorem briefs_placid : AllowsBriefs deployment (placid deployment) where
  query {_ call} hquery := by cases call <;> trivial
  briefs {_ call} hbriefs := by
    rcases hbriefs with ⟨dispute, notification, -, htells⟩ | hbriefs
    · exact tell_placid dispute notification htells
    · cases call with
      | append new =>
        change new.kind.isFloodStrike = false
        rcases hbriefs with ⟨pending, hkind⟩ | ⟨last, hkind⟩
        · rw [hkind]
          rfl
        · rw [hkind]
          rfl
      | insertEvaluation new => exact hbriefs
      | _ => exact absurd hbriefs not_false

/-- So they are mild. -/
theorem briefs_mild : AllowsBriefs deployment (mild deployment) where
  query hquery := mild_of_placid (briefs_placid.query hquery)
  briefs hbriefs := mild_of_placid (briefs_placid.briefs hbriefs)

/-- So is what the parties are sent. -/
theorem send_mild (id : SessionId) (party : Party) (template : Template) :
    MaySend deployment (mild deployment) id party template :=
  fun hsends => mild_of_placid (send_placid id party template hsends)

/-! ## What a turn knows -/

/-- The thread runs the session's turn, and there is no flood to hand off. -/
def Unflooded (number : Nat) (id : SessionId) (world : World × List Window) : Prop :=
  world.1.Runs number id ∧ owes world id = false

/-- The condition of the contract, taken apart. -/
theorem completed_of_manned {β : Type} {call : Call β} {oracle : Oracle}
    {world : World × List Window}
    (h : (mannedBoth (completed deployment)).call thread call oracle world = true) :
    (completed deployment).call thread call oracle world = true := by
  rw [mannedBoth, Bool.and_eq_true] at h
  exact h.1

/-- A call of the turn that records no strike leaves its session as flooded as it was. -/
theorem owes_of_not {β : Type} {call : Call β} {oracle : Oracle} {world : World × List Window}
    {id : SessionId} (hrecords : call.recordsStrike = false)
    (hcond : (completed deployment).call thread call oracle world = true)
    (hruns : world.1.Runs thread.number id) (h : owes world id = false) :
    owes ((strikeLog deployment).beside.perform thread call oracle world).2 id = false := by
  have hmediates : (performCall deployment thread call oracle world.1).2.mediates id = true →
      world.1.mediates id = true := by
    intro hlater
    rcases (completed_call hcond hruns).1 with ⟨-, hhands⟩ | hkept
    · cases call with
      | handOff session reason now => exact mediates_of_handOff hlater
      | _ => cases hhands
    · rwa [hkept] at hlater
  change (floods (noteStrike deployment thread.number call oracle world.1 world.2) id &&
    (performCall deployment thread call oracle world.1).2.mediates id) = false
  rw [noteStrike_of_not hrecords]
  rw [owes, Bool.and_eq_false_iff] at h
  rw [Bool.and_eq_false_iff]
  refine h.imp (fun hfloods => hfloods) fun hnot => ?_
  by_contra hlater
  rw [hmediates (by simpa using hlater)] at hnot
  cases hnot

/-- Nothing of a turn but a strike or its end changes what it knows. -/
theorem lasting_unflooded (id : SessionId) :
    (strikeSpec deployment).Lasting thread
      (fun call => call.recordsStrike = false ∧ call.ends = false)
      (Unflooded thread.number id) := by
  constructor
  · intro world later h hrely
    have hspared := hrely.2.turn id h.1
    exact ⟨hspared.runs, hspared.owes.trans h.2⟩
  · intro β call oracle world hcall _ _ hcond h
    exact ⟨runs_performCall h.1 (Or.inr hcall.2),
      owes_of_not hcall.1 (completed_of_manned hcond) h.1 h.2⟩

/-- A mild call is no strike and no end. -/
theorem mild_spares {β : Type} {call : Call β} (h : mild deployment call) :
    call.recordsStrike = false ∧ call.ends = false := by
  cases call <;> first | exact ⟨rfl, rfl⟩ | exact ⟨h, rfl⟩ | exact absurd h not_false

/-- A mild call needs nothing but that the turn's own session is not flooded. -/
theorem enough_mild {fact : World × List Window → Prop}
    (h : ∀ id world, thread.role = .turn id → fact world → owes world id = false) :
    Enough (strikeSpec deployment) thread (mild deployment) fact := by
  intro β call world hmild hinv hfact
  cases call with
  | append new =>
    intro hrecords
    rw [show new.kind.isFloodStrike = false from hmild] at hrecords
    cases hrecords
  | insertEvaluation new => exact fun hturn => absurd hmild hturn
  | handOff session reason now =>
    exact ⟨fun hflood => absurd hflood hmild, fun _ hrole => h _ world hrole hfact⟩
  | joinTurn again => exact absurd hmild not_false
  | _ => trivial

/-- The session that a turn loaded: it is mediated, stored under its id, and has the messages. -/
structure Fetched (number : Nat) (session : Session) (messages : List Message)
    (world : World × List Window) : Prop where
  runs : world.1.Runs number session.sessionId
  mediates : phaseOf session.state ≠ none → world.1.mediates session.sessionId = true
  placed : ∃ row, world.1.store.session session.sessionId = some row ∧
    row.disputeId = session.disputeId
  messages : messages.Subperm (world.1.store.messages.filter (·.sessionId == session.sessionId))

/-- What a turn fetched is known while its session is mediated. -/
theorem Fetched.grow {number : Nat} {session : Session} {messages : List Message}
    {world later : World × List Window} (h : Fetched number session messages world)
    (hruns : later.1.Runs number session.sessionId)
    (hmediates : later.1.mediates session.sessionId = world.1.mediates session.sessionId)
    (hgrows : world.1.store.Grows later.1.store) : Fetched number session messages later where
  runs := hruns
  mediates hphase := hmediates.trans (h.mediates hphase)
  placed := by
    obtain ⟨row, hrow, hdispute⟩ := h.placed
    obtain ⟨found, hfound, hterms⟩ := hgrows.session hrow
    have hsame : found.disputeId = row.disputeId := congrArg (fun terms => terms.2.1) hterms
    exact ⟨found, hfound, hsame.trans hdispute⟩
  messages := h.messages.trans (hgrows.messages.filter _).sublist.subperm

/-- It is known through every placid call. -/
theorem lasting_fetched (session : Session) (messages : List Message) :
    (strikeSpec deployment).Lasting thread (placid deployment)
      (Fetched thread.number session messages) := by
  constructor
  · intro world later h hrely
    have hspared := hrely.2.turn _ h.runs
    exact h.grow hspared.runs hspared.mediates hrely.2.grows
  · intro β call oracle world hplacid _ _ hcond h
    refine h.grow (runs_performCall h.runs (Or.inr ?_)) ?_ (performCall_grows deployment _ _ _ _)
    · cases call <;> first | rfl | exact absurd hplacid not_false
    · rcases (completed_call (completed_of_manned hcond) h.runs).1 with ⟨-, hhands⟩ | hkept
      · cases call <;> first | exact absurd hplacid not_false | cases hhands
      · exact hkept

/-! ## What a turn reads of the log -/

/-- The strike of a window, as a turn of the session reads it. -/
def Window.read (id : SessionId) (window : Window) : Option (Party × Int) :=
  if window.sessionId = id then some (window.party, window.last) else none

section

variable {world : World} {windows : List Window} {id : SessionId} {row : Session}

/-- A turn reads the strikes of its session's windows. -/
theorem Struck.read (h : Struck deployment world windows) (hinv : world.core.Inv)
    (hrow : world.store.session id = some row) :
    (world.store.listEvents row.disputeId).filterMap (strikeOf id) =
      windows.filterMap (Window.read id) := by
  have hplaced : ∀ event ∈ world.store.events,
      (if (event.disputeId == row.disputeId) = true then strikeOf id event else none) =
        event.strike.bind fun strike => if strike.1 = id then some strike.2 else none := by
    intro event hevent
    rw [strikeOf_eq]
    split
    · rfl
    · next hdispute =>
      -- A strike of the session would be an event of its dispute.
      cases hstrike : event.strike with
      | none => rfl
      | some strike =>
        rw [Option.bind_some, if_neg]
        intro hid
        obtain ⟨found, hfound, hsame⟩ := h.placed event hevent strike hstrike
        rw [hid, ← hinv.session_eq, hrow, Option.some.injEq] at hfound
        rw [← hsame, ← hfound, beq_self_eq_true] at hdispute
        exact hdispute rfl
  calc (world.store.listEvents row.disputeId).filterMap (strikeOf id)
      = world.store.events.filterMap fun event =>
          event.strike.bind fun strike => if strike.1 = id then some strike.2 else none := by
        rw [Store.listEvents, List.filterMap_filter]
        exact List.filterMap_congr hplaced
    _ = world.store.strikes.filterMap fun strike =>
          if strike.1 = id then some strike.2 else none := by
        rw [Store.strikes, List.filterMap_filterMap]
    _ = windows.filterMap (Window.read id) := by
        rw [← h.recorded, List.filterMap_map]
        rfl

/-- So it counts the windows of a party. -/
theorem countP_read (windows : List Window) (id : SessionId) (party : Party) :
    ((windows.filterMap (Window.read id)).countP fun strike => strike.1 == party) =
      windows.countP fun window => window.isOf id party := by
  rw [List.countP_filterMap]
  refine List.countP_congr fun window _ => ?_
  unfold Window.read Window.isOf
  by_cases hid : window.sessionId = id
  · simp [hid]
  · simp [hid]

/-- And counts from above them. -/
theorem Struck.le_watermark (h : Struck deployment world windows) (hinv : world.core.Inv)
    (hrow : world.store.session id = some row) {window : Window} (hwindow : window ∈ windows)
    (hid : window.sessionId = id) :
    window.last ≤ world.store.watermark deployment row.disputeId id := by
  have hread : (window.party, window.last) ∈
      (world.store.listEvents row.disputeId).filterMap (strikeOf id) := by
    rw [h.read hinv hrow, List.mem_filterMap]
    exact ⟨window, hwindow, by rw [Window.read, if_pos hid]⟩
  exact Store.le_watermark hread

end

/-! ## Counting -/

/-- What a turn knows while it counts the messages of these parties: the watermark, and the strikes
that each of them had. -/
structure Reckons (deployment : Deployment) (number : Nat) (session : Session)
    (messages : List Message) (strikes : List (Party × Int)) (counted : Int) (todo : List Party)
    (flood : Bool) (world : World × List Window) : Prop where
  fetched : Fetched number session messages world
  mediates : world.1.mediates session.sessionId = true
  looked : ∃ seen, world.1.lastLook number = some seen ∧
    seen.watermark deployment session.disputeId session.sessionId = counted
  judged : world.1.store.judgedUpTo deployment session.sessionId ≤ counted
  counts : ∀ party ∈ todo, (world.2.countP fun window => window.isOf session.sessionId party) =
    strikes.countP fun strike => strike.1 == party
  below : ∀ party ∈ todo, ∀ window ∈ world.2, window.isOf session.sessionId party = true →
    window.last ≤ counted
  floods : flood = floods world.2 session.sessionId

namespace Reckons

variable {number : Nat} {session : Session} {messages : List Message}
  {strikes : List (Party × Int)} {counted : Int} {todo : List Party} {flood : Bool}
  {world later : World × List Window}

/-- Windows of a party are among those of its session. -/
theorem countP_filter (windows : List Window) (id : SessionId) (party : Party) :
    ((windows.filter fun window => window.sessionId == id).countP fun window =>
      window.isOf id party) = windows.countP fun window => window.isOf id party := by
  rw [List.countP_filter]
  refine List.countP_congr fun window _ => ?_
  simp only [Window.isOf, Bool.and_eq_true]
  exact ⟨fun h => h.1, fun h => ⟨h, h.1⟩⟩

/-- Nobody else disturbs the count. -/
theorem rely (h : Reckons deployment number session messages strikes counted todo flood world)
    (hleft : Left deployment number world later) :
    Reckons deployment number session messages strikes counted todo flood later := by
  have hspared := hleft.turn _ h.fetched.runs
  constructor
  · exact h.fetched.grow hspared.runs hspared.mediates hleft.grows
  · exact hspared.mediates.trans h.mediates
  · obtain ⟨seen, hseen, hcounted⟩ := h.looked
    exact ⟨seen, hleft.looked.trans hseen, hcounted⟩
  · rw [hspared.judged]
    exact h.judged
  · intro party hparty
    rw [← countP_filter, hspared.windows, countP_filter]
    exact h.counts party hparty
  · intro party hparty window hwindow hof
    have hid : (window.sessionId == session.sessionId) = true := (Bool.and_eq_true_iff.mp hof).1
    have hmem : window ∈ later.2.filter fun window => window.sessionId == session.sessionId :=
      List.mem_filter.mpr ⟨hwindow, hid⟩
    rw [hspared.windows] at hmem
    exact h.below party hparty window (List.mem_of_mem_filter hmem) hof
  · rw [hspared.floods]
    exact h.floods

/-- While the session is flooded the turn owes the hand-off. -/
theorem unflooded (h : Reckons deployment number session messages strikes counted todo false world) :
    Unflooded number session.sessionId world := by
  refine ⟨h.fetched.runs, ?_⟩
  rw [owes, ← h.floods]
  rfl

/-- The strike of a party over the limit may be recorded. -/
theorem mayStrike {party : Party} {rest : List Party} (now : Int)
    (h : Reckons deployment number session messages strikes counted (party :: rest) flood world)
    (hlimit : deployment.settings.maxMessagesPerTurn < messages.countP fun message =>
      message.isFrom party && decide (message.id > counted)) (count : Nat) :
    MayStrike deployment number ⟨session.disputeId, some session.sessionId,
        .floodStrike party count (Store.newestMessageId messages), now⟩ world.1 world.2
      (session.sessionId, party, Store.newestMessageId messages) := by
  obtain ⟨seen, hseen, hcounted⟩ := h.looked
  have hafter : (world.1.window deployment number session.disputeId
      (session.sessionId, party, Store.newestMessageId messages)).after = counted := by
    simp only [World.window, hseen, Option.map_some, Option.getD_some, hcounted]
  refine ⟨rfl, h.fetched.runs, h.mediates, h.fetched.placed, ?_, ?_, ?_⟩
  · intro window hwindow hid hparty
    rw [hafter]
    refine h.below party List.mem_cons_self window hwindow ?_
    simp [Window.isOf, hid, hparty]
  · rw [hafter]
    exact h.judged
  · -- The messages that were counted are stored, and are in the window.
    have hcovers : ∀ message : Message, (world.1.window deployment number session.disputeId
        (session.sessionId, party, Store.newestMessageId messages)).covers message =
          (message.sessionId == session.sessionId && message.isFrom party &&
            decide (counted < message.id) &&
              decide (message.id ≤ Store.newestMessageId messages)) := by
      intro message
      unfold Window.covers
      rw [hafter]
      rfl
    refine lt_of_lt_of_le hlimit ?_
    calc messages.countP (fun message => message.isFrom party && decide (message.id > counted))
        = messages.countP (fun message => message.isFrom party &&
            decide (counted < message.id) &&
              decide (message.id ≤ Store.newestMessageId messages)) := by
          refine List.countP_congr fun message hmessage => ?_
          simp [Store.le_newestMessageId hmessage]
      _ ≤ (world.1.store.messages.filter (·.sessionId == session.sessionId)).countP
            (fun message => message.isFrom party && decide (counted < message.id) &&
              decide (message.id ≤ Store.newestMessageId messages)) :=
          h.fetched.messages.countP_le _
      _ = _ := by
          rw [List.countP_filter]
          refine List.countP_congr fun message _ => ?_
          simp only [hcovers, Bool.and_eq_true]
          exact ⟨fun hall => ⟨⟨⟨hall.2, hall.1.1.1⟩, hall.1.1.2⟩, hall.1.2⟩,
            fun hall => ⟨⟨⟨hall.1.1.2, hall.1.2⟩, hall.2⟩, hall.1.1.1⟩⟩

/-- After the strike of a party the others are still to be counted. -/
theorem struck {party : Party} {rest : List Party} (hparty : party ∉ rest) (count : Nat) (now : Int)
    (h : Reckons deployment number session messages strikes counted (party :: rest) flood world) :
    Reckons deployment number session messages strikes counted rest
      (flood || decide (floodStrikes ≤ (strikes.countP fun strike => strike.1 == party) + 1))
      ({ world.1 with store := world.1.store.append ⟨session.disputeId, some session.sessionId,
          .floodStrike party count (Store.newestMessageId messages), now⟩ },
        world.2 ++ [world.1.window deployment number session.disputeId
          (session.sessionId, party, Store.newestMessageId messages)]) where
  fetched := ⟨h.fetched.runs, h.fetched.mediates, h.fetched.placed, h.fetched.messages⟩
  mediates := h.mediates
  looked := h.looked
  judged := h.judged
  counts other hother := by
    have hne : (party == other) = false := by
      rw [beq_eq_false_iff_ne]
      rintro rfl
      exact hparty hother
    rw [List.countP_append, h.counts other (List.mem_cons_of_mem party hother)]
    simp [Window.isOf, World.window, hne]
  below other hother window hwindow hof := by
    rcases List.mem_append.mp hwindow with hold | hnew
    · exact h.below other (List.mem_cons_of_mem party hother) window hold hof
    · rw [List.mem_singleton.mp hnew, Window.isOf, Bool.and_eq_true, beq_iff_eq, beq_iff_eq] at hof
      have hsame : party = other := hof.2
      rw [hsame] at hparty
      exact absurd hother hparty
  floods := by
    have hcounts := h.counts party List.mem_cons_self
    have hconcat := @floods_concat world.2 session.sessionId (world.1.window deployment number
      session.disputeId (session.sessionId, party, Store.newestMessageId messages)) rfl
    rw [h.floods, ← hcounts]
    exact hconcat.symm

/-- A party that is not over the limit. -/
theorem skip {party : Party} {rest : List Party}
    (h : Reckons deployment number session messages strikes counted (party :: rest) flood world) :
    Reckons deployment number session messages strikes counted rest flood world :=
  { h with
    counts := fun other hother => h.counts other (List.mem_cons_of_mem party hother)
    below := fun other hother => h.below other (List.mem_cons_of_mem party hother) }

end Reckons

/-- One party's part of the count. -/
def strikeParty (deployment : Deployment) (session : Session) (messages : List Message)
    (strikes : List (Party × Int)) (counted now : Int) (flood : Bool) (party : Party) :
    Daemon Bool := do
  let count := messages.countP fun message =>
    message.isFrom party && decide (message.id > counted)
  if overLimit count deployment.settings.maxMessagesPerTurn then
    perform (.append ⟨session.disputeId, some session.sessionId,
      .floodStrike party count (Store.newestMessageId messages), now⟩)
    let earlier := strikes.countP fun strike => strike.1 == party
    return flood || isFlood (earlier + 1)
  else return flood

/-- A turn counts each party's messages after it read the strikes. -/
theorem flooded_eq (session : Session) (messages : List Message) (now : Int) :
    flooded deployment session messages now =
      (perform (.read fun store =>
        (store.listEvents session.disputeId, store.listEvaluations session.sessionId))).bind
        fun (read : List Event × List Evaluation) =>
          foldEach (strikeParty deployment session messages
            (read.1.filterMap (strikeOf session.sessionId))
            (countedUpTo deployment (read.1.filterMap (strikeOf session.sessionId)) read.2) now)
            false Party.both :=
  rfl

/-- What is known once these parties are left: the count, or, where it failed, that there is no
flood. -/
def Counted (deployment : Deployment) (number : Nat) (session : Session) (messages : List Message)
    (strikes : List (Party × Int)) (counted : Int) (todo : List Party) (result : Except String Bool)
    (world : World × List Window) : Prop :=
  match result with
  | .ok flood => Reckons deployment number session messages strikes counted todo flood world
  | .error _ => Fetched number session messages world ∧
      Unflooded number session.sessionId world

section

variable {session : Session} {messages : List Message} {strikes : List (Party × Int)}
  {counted : Int}

/-- A strike that is recorded. -/
theorem beside_strike {oracle : Oracle} (hfails : oracle.fails = none) {new : NewEvent}
    {strike : SessionId × Party × Int} (hkind : strikeIn new.sessionId new.kind = some strike)
    (world : World × List Window) :
    (strikeLog deployment).beside.perform thread (.append new) oracle world =
      (.ok (), { world.1 with store := world.1.store.append new },
        world.2 ++ [world.1.window deployment thread.number new.disputeId strike]) := by
  simp only [Companion.beside, machine, strikeLog, performCall, noteStrike, World.underLock,
    World.orFail, hfails, hkind, Option.isSome_none, Bool.false_eq_true, if_false,
    Option.map_some, Option.getD_some]
  rfl

/-- An event that is not recorded. -/
theorem beside_append_error {oracle : Oracle} {failure : String}
    (hfails : oracle.fails = some failure) {new : NewEvent} (world : World × List Window) :
    (strikeLog deployment).beside.perform thread (.append new) oracle world =
      (.error failure, world) := by
  simp only [Companion.beside, machine, strikeLog, performCall, noteStrike, World.underLock,
    World.orFail, hfails, Option.isSome_some, if_true]

/-- What a read leaves. -/
theorem beside_read {oracle : Oracle} (hfails : oracle.fails = none) {α : Type}
    (query : Store → α) (world : World × List Window) :
    (strikeLog deployment).beside.perform thread (.read query) oracle world =
      (.ok (query world.1.store), world.1.look thread.number, world.2) := by
  simp only [Companion.beside, machine, strikeLog, performCall, noteStrike, World.orFail, hfails,
    Option.isSome_none, Bool.false_eq_true, if_false]

/-- A read that fails. -/
theorem beside_read_error {oracle : Oracle} {failure : String}
    (hfails : oracle.fails = some failure) {α : Type} (query : Store → α)
    (world : World × List Window) :
    (strikeLog deployment).beside.perform thread (.read query) oracle world =
      (.error failure, world) := by
  simp only [Companion.beside, machine, strikeLog, performCall, noteStrike, World.orFail, hfails,
    Option.isSome_some, if_true]

/-- **One party's part of the count.** -/
theorem strikeParty_counted {party : Party} {rest : List Party} (hparty : party ∉ rest)
    (now : Int) (flood : Bool) :
    (strikeSpec deployment).Triple thread
      (Reckons deployment thread.number session messages strikes counted (party :: rest) flood)
      (strikeParty deployment session messages strikes counted now flood party)
      (Counted deployment thread.number session messages strikes counted rest) := by
  unfold strikeParty
  simp only []
  split
  · next hlimit =>
    refine Spec.Triple.bind (fun result world => Counted deployment thread.number session messages
      strikes counted rest (result.map fun _ => flood || decide (floodStrikes ≤
        (strikes.countP fun strike => strike.1 == party) + 1)) world) ?_ (fun _ => ?_)
        fun _ _ _ hfailed => hfailed
    · refine .perform (fun hreckons hrely => hreckons.rely hrely.2) ?_ ?_
      · exact fun world _ hreckons _ => ⟨_, hreckons.mayStrike now (of_decide_eq_true hlimit) _⟩
      · intro world oracle later hinv hreckons hcond hrely _
        have hpaid := (completed_call (completed_of_manned hcond) hreckons.fetched.runs).2 rfl
        cases hfails : oracle.fails with
        | none =>
          rw [beside_strike hfails rfl] at hrely ⊢
          exact (hreckons.struck hparty _ now).rely hrely.2
        | some failure =>
          -- Nothing fails once there is a flood, so there is none.
          have hnone : owes world session.sessionId = false := by
            by_contra hflood
            rw [hpaid (by simpa using hflood)] at hfails
            cases hfails
          rw [beside_append_error hfails] at hrely ⊢
          have hunflooded : Unflooded thread.number session.sessionId world :=
            ⟨hreckons.fetched.runs, hnone⟩
          exact ⟨(lasting_fetched session messages).rely hreckons.fetched hrely,
            (lasting_unflooded session.sessionId).rely hunflooded hrely⟩
    · exact .done (fun hreckons hrely => hreckons.rely hrely.2) fun _ _ hreckons => hreckons
  · exact .done (fun hreckons hrely => hreckons.rely hrely.2) fun _ _ hreckons => hreckons.skip

/-- The parties one after the other. -/
theorem strikeParties_counted (now : Int) {todo : List Party} (hnodup : todo.Nodup) (flood : Bool) :
    (strikeSpec deployment).Triple thread
      (Reckons deployment thread.number session messages strikes counted todo flood)
      (foldEach (strikeParty deployment session messages strikes counted now) flood todo)
      (Counted deployment thread.number session messages strikes counted []) := by
  induction todo generalizing flood with
  | nil => exact .done (fun hreckons hrely => hreckons.rely hrely.2) fun _ _ hreckons => hreckons
  | cons party rest ih =>
    obtain ⟨hparty, hrest⟩ := List.nodup_cons.mp hnodup
    exact Spec.Triple.bind _ (strikeParty_counted hparty now flood) (fun later => ih hrest later)
      fun _ _ _ hfailed => hfailed

/-- What is known of the session when a turn starts to count. -/
theorem reckons_look {world : World × List Window} (hinv : (strikeSpec deployment).inv world)
    (hunflooded : Unflooded thread.number session.sessionId world)
    (hfetched : Fetched thread.number session messages world)
    (hmediates : world.1.mediates session.sessionId = true) :
    Reckons deployment thread.number session messages
      ((world.1.store.listEvents session.disputeId).filterMap (strikeOf session.sessionId))
      (world.1.store.watermark deployment session.disputeId session.sessionId) Party.both false
      (world.1.look thread.number, world.2) := by
  obtain ⟨row, hrow, hdispute⟩ := hfetched.placed
  have hstruck : Struck deployment world.1 world.2 := hinv.2
  have hread := hstruck.read hinv.1 hrow
  rw [hdispute] at hread
  refine ⟨⟨hfetched.runs, hfetched.mediates, hfetched.placed, hfetched.messages⟩, hmediates,
    ⟨world.1.store, World.lastLook_look _ _, rfl⟩, Store.judgedUpTo_le_watermark _ _, ?_, ?_, ?_⟩
  · intro party _
    rw [hread, countP_read]
  · intro party _ window hwindow hof
    have hid : window.sessionId = session.sessionId := by
      rw [Window.isOf, Bool.and_eq_true, beq_iff_eq] at hof
      exact hof.1
    have hbelow := hstruck.le_watermark hinv.1 hrow hwindow hid
    rwa [hdispute] at hbelow
  · have howes := hunflooded.2
    rw [owes, hmediates, Bool.and_true] at howes
    exact howes.symm

/-- **A turn counts** with the strikes it read. -/
theorem flooded_counted (now : Int) :
    (strikeSpec deployment).Triple thread
      (fun world => (Unflooded thread.number session.sessionId world ∧
        Fetched thread.number session messages world) ∧
          world.1.mediates session.sessionId = true)
      (flooded deployment session messages now)
      fun result world => ∃ strikes counted,
        Counted deployment thread.number session messages strikes counted [] result world := by
  rw [flooded_eq]
  refine Spec.Triple.bind (fun result world =>
    (∀ read, result = .ok read → Reckons deployment thread.number session messages
      (read.1.filterMap (strikeOf session.sessionId))
      (countedUpTo deployment (read.1.filterMap (strikeOf session.sessionId)) read.2)
      Party.both false world) ∧
    ∀ failure, result = .error failure → Fetched thread.number session messages world ∧
      Unflooded thread.number session.sessionId world) ?_ (fun read => ?_) ?_
  · refine .perform ?_ (fun _ _ _ => trivial) ?_
    · intro world later hknown hrely
      -- Between two of this turn's steps nobody else strikes it or takes it over.
      have hspared := hrely.2.turn _ hknown.1.1.1
      exact ⟨⟨(lasting_unflooded session.sessionId).rely hknown.1.1 hrely,
        (lasting_fetched session messages).rely hknown.1.2 hrely⟩,
        hspared.mediates.trans hknown.2⟩
    · intro world oracle later hinv hknown _ hrely _
      obtain ⟨⟨hunflooded, hfetched⟩, hmediates⟩ := hknown
      cases hfails : oracle.fails with
      | none =>
        rw [beside_read hfails] at hrely ⊢
        refine ⟨fun read hread => ?_, fun failure hfailure => by cases hfailure⟩
        cases hread
        -- One look gives both the strikes so far and the messages they are counted over.
        exact (reckons_look hinv hunflooded hfetched hmediates).rely hrely.2
      | some failure =>
        rw [beside_read_error hfails] at hrely ⊢
        refine ⟨fun read hread => ?_, fun failure _ => ?_⟩
        · cases hread
        · exact ⟨(lasting_fetched session messages).rely hfetched hrely,
            (lasting_unflooded session.sessionId).rely hunflooded hrely⟩
  · refine (strikeParties_counted now (by decide) false).consequence
      (fun _ _ hread => hread.1 read rfl) fun _ _ _ hcounted => ⟨_, _, hcounted⟩
  · exact fun failure _ _ hfailed => ⟨[], 0, hfailed.2 failure rfl⟩

end

end Serbero
