import Serbero.Runtime.Replay
import Serbero.Runtime.Replies
import Serbero.Runtime.Walks

/-! # The states that were judged, over whole runs

A log beside the daemon notes the state of each request the judge answered, and with each recorded
evaluation the state its task had asked for. Whatever arrives later, replaying the evaluation builds
that state again. -/

namespace Serbero

open Pool
open Pool.Program

/-! ## The log -/

/-- What is noted of the judge's requests. -/
structure Judged where
  /-- The states that were judged, newest first, each with the thread that asked. -/
  asked : List (Nat × JudgeState)
  /-- The recorded evaluations, oldest first, each with the state its thread asked for last. -/
  recorded : List (Evaluation × Option JudgeState)

/-- Nothing was judged. -/
def Judged.empty : Judged := ⟨[], []⟩

/-- The evaluation a new evaluation is recorded as. -/
def Store.evaluationRow (store : Store) (new : NewEvaluation) : Evaluation :=
  { id := store.evaluations.length + 1
    sessionId := new.sessionId
    questionSetVersion := new.questionSetVersion
    lastMessageId := new.lastMessageId
    answers := new.answers
    action := new.action
    createdAt := new.now }

namespace Judged

variable (judged : Judged)

/-- The state the thread asked for last. -/
def stateOf (thread : Nat) : Option JudgeState :=
  (judged.asked.find? fun entry => entry.1 == thread).map Prod.snd

/-- What is noted of a call that does not fail. -/
def note {β : Type} (thread : Nat) (call : Call β) (oracle : Oracle) (store : Store) : Judged :=
  if oracle.fails.isSome then judged
  else
    match call with
    | .evaluate state => { judged with asked := (thread, state) :: judged.asked }
    | .insertEvaluation new =>
      { judged with
        recorded := judged.recorded ++ [(store.evaluationRow new, judged.stateOf thread)] }
    | _ => judged

end Judged

/-- The log beside the daemon. -/
def judgeLog (deployment : Deployment) : Companion (machine deployment) Empty Judged where
  call thread call oracle world judged := judged.note thread.number call oracle world.store
  launch _ _ _ judged := judged
  happen _ _ judged := judged
  restart _ _ judged := { judged with asked := [] }
  deed deed _ _ := nomatch deed

/-- The daemon's contract, beside the log. -/
def judgedContract (deployment : Deployment) :
    Contract (judgeLog deployment).beside Condition.always :=
  (contract deployment Condition.always).beside (judgeLog deployment)
    (Condition.within_always Condition.always)

variable {deployment : Deployment} {thread : Thread Task}

/-! ## What the log keeps -/

/-- Every recorded evaluation has a state, and is replayed to it. -/
structure Judged.Inv (deployment : Deployment) (store : Store) (judged : Judged) : Prop where
  numbered : store.Numbered
  recorded : judged.recorded.map Prod.fst = store.evaluations
  replays : ∀ entry ∈ judged.recorded, ∃ state, entry.2 = some state ∧
    Replays deployment store entry.1.sessionId entry.1.lastMessageId state

namespace Judged.Inv

variable {store later : Store} {judged : Judged}

/-- What records no evaluation keeps the invariant. -/
theorem grow (h : Judged.Inv deployment store judged) (hgrows : store.Grows later)
    (hevaluations : later.evaluations = store.evaluations) :
    Judged.Inv deployment later judged where
  numbered := hgrows.numbered h.numbered
  recorded := h.recorded.trans hevaluations.symm
  replays entry hentry := by
    obtain ⟨state, hstate, hreplays⟩ := h.replays entry hentry
    exact ⟨state, hstate, hreplays.grow hgrows⟩

/-- What was asked for does not matter to what is recorded. -/
theorem ask (h : Judged.Inv deployment store judged) (asked : List (Nat × JudgeState)) :
    Judged.Inv deployment store { judged with asked := asked } := ⟨h.numbered, h.recorded, h.replays⟩

/-- An evaluation is recorded with the state it is replayed to. -/
theorem judge (h : Judged.Inv deployment store judged) {new : NewEvaluation} {thread : Nat}
    {state : JudgeState} (hstate : judged.stateOf thread = some state)
    (hreplays : Replays deployment store new.sessionId new.lastMessageId state) :
    Judged.Inv deployment (store.insertEvaluation new)
      { judged with
        recorded := judged.recorded ++ [(store.evaluationRow new, judged.stateOf thread)] } := by
  have hgrows : store.Grows (store.insertEvaluation new) := .of_eq rfl rfl rfl
  refine ⟨h.numbered, ?_, fun entry hentry => ?_⟩
  · rw [List.map_append, h.recorded]
    rfl
  · rcases List.mem_append.mp hentry with hold | hnew
    · obtain ⟨found, hfound, hkept⟩ := h.replays entry hold
      exact ⟨found, hfound, hkept.grow hgrows⟩
    · rw [List.mem_singleton.mp hnew]
      exact ⟨state, hstate, hreplays.grow hgrows⟩

end Judged.Inv

/-- What a call needs beside the contract: an evaluation is recorded for a state that the thread
asked for, and that can be built again. -/
def JudgedNeeds (deployment : Deployment) (thread : Nat) {β : Type} (call : Call β) (store : Store)
    (judged : Judged) : Prop :=
  match call with
  | .insertEvaluation new => ∃ state, judged.stateOf thread = some state ∧
      Replays deployment store new.sessionId new.lastMessageId state
  | _ => True

/-- The call asks the judge, or records an evaluation. -/
def Call.consults {β : Type} : Call β → Bool
  | .evaluate _ | .insertEvaluation _ => true
  | _ => false

/-- No other call is noted. -/
theorem Judged.note_of_not {β : Type} {call : Call β} (h : call.consults = false)
    (judged : Judged) (number : Nat) (oracle : Oracle) (store : Store) :
    judged.note number call oracle store = judged := by
  unfold Judged.note
  split
  · rfl
  · split
    · cases h
    · cases h
    · rfl

/-- Nobody else changes what a thread asked for. -/
theorem Judged.stateOf_note {β : Type} {call : Call β} (judged : Judged) {number other : Nat}
    (hother : other ≠ number) (oracle : Oracle) (store : Store) :
    (judged.note number call oracle store).stateOf other = judged.stateOf other := by
  unfold Judged.note
  split
  · rfl
  · split
    · have hne : (number == other) = false := by simpa using hother.symm
      simp only [Judged.stateOf, List.find?_cons, hne]
    · rfl
    · rfl

/-- Every call that knows what it must keeps the log. -/
theorem Judged.Inv.call {β : Type} {call : Call β} {world : World} {judged : Judged}
    (h : Judged.Inv deployment world.store judged)
    (hneeds : JudgedNeeds deployment thread.number call world.store judged) (oracle : Oracle) :
    Judged.Inv deployment (performCall deployment thread call oracle world).2.store
      (judged.note thread.number call oracle world.store) := by
  have hgrows := performCall_grows deployment thread call oracle world
  by_cases hjudges : call.judges = true
  · cases call with
    | insertEvaluation new =>
      obtain ⟨state, hstate, hreplays⟩ := hneeds
      simp only [performCall, World.underLock, World.orFail, Judged.note]
      cases oracle.fails with
      | some failure => exact h
      | none => exact h.judge hstate hreplays
    | _ => cases hjudges
  · have hkeep := h.grow hgrows (performCall_evaluations deployment thread call
      (by simpa using hjudges) oracle world)
    unfold Judged.note
    split
    · exact hkeep
    · split
      · exact hkeep.ask _
      · exact absurd rfl hjudges
      · exact hkeep

/-- The daemon beside the log. -/
def judgedExtension (deployment : Deployment) : Extension (judgedContract deployment) where
  inv world := Judged.Inv deployment world.1.store world.2
  pre thread call world := JudgedNeeds deployment thread.number call world.1.store world.2
  rely thread world later := world.1.store.Grows later.1.store ∧
    later.2.stateOf thread.number = world.2.stateOf thread.number
  rely_refl _ world := ⟨.refl world.1.store, rfl⟩
  rely_trans _ _ h h' := ⟨h.1.trans h'.1, h'.2.trans h.2⟩
  call_inv _ hinv _ hpre _ := hinv.call hpre _
  call_rely _ _ _ _ _ hother :=
    ⟨performCall_grows deployment _ _ _ _, Judged.stateOf_note _ hother _ _⟩
  launch_inv {thread oracle world later} _ hinv _ hlaunch := by
    obtain ⟨halone, hnotes⟩ := (judgeLog deployment).launch_cases hlaunch
    rw [hnotes, (launch_traffic halone).1]
    exact hinv
  launch_rely {thread other oracle world later} _ _ _ hlaunch := by
    obtain ⟨halone, hnotes⟩ := (judgeLog deployment).launch_cases hlaunch
    rw [hnotes, (launch_traffic halone).1]
    exact ⟨.refl _, rfl⟩
  happen_inv {event world later} _ hinv _ hhappen := by
    rcases (judgeLog deployment).happen_cases hhappen with ⟨_, -, halone, hnotes⟩ | ⟨deed, -⟩
    · rw [hnotes]
      exact hinv.grow (happen_grows halone) (happen_evaluations halone)
    · exact nomatch deed
  happen_rely {event other world later} _ _ _ hhappen := by
    rcases (judgeLog deployment).happen_cases hhappen with ⟨_, -, halone, hnotes⟩ | ⟨deed, -⟩
    · rw [hnotes]
      exact ⟨happen_grows halone, rfl⟩
    · exact nomatch deed
  restart_inv _ hinv _ := hinv.ask []

/-! ## What a task knows -/

/-- What is known of a task beside the log. -/
abbrev judgedSpec (deployment : Deployment) : Spec (judgeLog deployment).beside Condition.always :=
  (judgedExtension deployment).news

/-- The call records no evaluation. -/
def unjudged {β : Type} (call : Call β) : Prop := call.judges = false

/-- The call is not noted. -/
def unnoted {β : Type} (call : Call β) : Prop := call.consults = false

/-- What the solvers are told records no evaluation. -/
theorem tell_unjudged (dispute : DisputeId) (notification : String) :
    MayTell unjudged dispute notification :=
  fun {_ call} htells => by cases call <;> first | rfl | cases htells

/-- Nor does what a party is sent. -/
theorem send_unjudged (id : SessionId) (party : Party) (template : Template) :
    MaySend deployment unjudged id party template :=
  fun {_ call} hsends => by cases call <;> first | rfl | cases hsends

/-- Nor do the queries and the briefs' records. -/
theorem reports_unjudged : AllowsReports unjudged where
  query {_ call} hquery := by cases call <;> first | rfl | cases hquery
  tell dispute notification _ _ _ := fun htells => tell_unjudged dispute notification htells
  briefSent _ _ _ _ := rfl
  updateSent _ _ _ _ := rfl

/-- Nor an opening that is given up. -/
theorem giveUp_unjudged (dispute : DisputeId) : MayGiveUp unjudged dispute :=
  ⟨tell_unjudged dispute _, fun _ => rfl⟩

/-- Nor a closing. -/
theorem close_unjudged : MayClose deployment unjudged :=
  ⟨rfl, rfl, fun _ => rfl, fun id party => send_unjudged id party _,
    fun dispute => tell_unjudged dispute _, fun _ _ _ _ => rfl⟩

/-- What stays as the store grows lasts. -/
theorem lasting_grows {property : Store → Prop}
    (h : ∀ {store later : Store}, property store → store.Grows later → property later) :
    (judgedSpec deployment).Lasting thread anyCall fun world => property world.1.store :=
  ⟨fun hknown hrely => h hknown hrely.2.1,
    fun _ _ _ _ hknown => h hknown (performCall_grows deployment _ _ _ _)⟩

/-- What was asked for lasts until the next request. -/
theorem lasting_stateOf (state : JudgeState) :
    (judgedSpec deployment).Lasting thread unnoted
      fun world => world.2.stateOf thread.number = some state := by
  refine ⟨fun hstate hrely => hrely.2.2.trans hstate, ?_⟩
  intro _ call oracle world hcall _ _ _ hstate
  change (world.2.note thread.number call oracle world.1.store).stateOf _ = _
  rw [Judged.note_of_not hcall]
  exact hstate

/-- A program that records no evaluation needs nothing. -/
theorem keeps_unjudged {fact : World × Judged → Prop} {α : Type} {program : Daemon α}
    (hfact : (judgedSpec deployment).Lasting thread anyCall fact)
    (h : Says deployment thread unjudged program) :
    (judgedSpec deployment).Keeps thread fact program := by
  refine keeps_beside (hfact.of_imp fun _ => trivial) ?_ h
  intro _ call world hcall _ _
  cases call with
  | insertEvaluation new => cases hcall
  | _ => trivial

/-- The answer to a request is known to be about its state. -/
theorem learns_evaluate {fact : World × Judged → Prop}
    (hfact : (judgedSpec deployment).Lasting thread anyCall fact) (state : JudgeState) :
    (judgedSpec deployment).Learns thread fact (perform (.evaluate state))
      fun _ world => world.2.stateOf thread.number = some state := by
  refine .perform hfact.rely (fun _ _ _ => trivial) ?_
  intro world oracle later hinv hknown hcond hrely _
  have hneeds : (judgedSpec deployment).pre thread (.evaluate state) world := trivial
  refine ⟨hfact.rely (hfact.call trivial hinv hneeds hcond hknown) hrely, fun answers hanswers => ?_⟩
  refine hrely.2.2.trans ?_
  change (world.1.orFail oracle (.ok oracle.answers, world.1)).1 = _ at hanswers
  change (world.2.note thread.number (.evaluate state) oracle world.1.store).stateOf _ = _
  unfold World.orFail at hanswers
  unfold Judged.note
  cases hfails : oracle.fails with
  | some failure =>
    rw [hfails] at hanswers
    cases hanswers
  | none => simp [Judged.stateOf]

/-- What a section reads and that stays as the store grows is known. -/
theorem learns_store {α : Type} {fact : World × Judged → Prop} (query : Store → α)
    (known : α → Store → Prop) (hfact : (judgedSpec deployment).Lasting thread anyCall fact)
    (hgrows : ∀ {value} {store later : Store}, known value store → store.Grows later →
      known value later)
    (hquery : ∀ world, (judgedSpec deployment).inv world → fact world →
      known (query world.1.store) world.1.store) :
    (judgedSpec deployment).Learns thread fact (perform (.read query))
      fun value world => known value world.1.store := by
  refine learns_look query _ (fun _ _ => rfl) (hfact.of_imp fun _ => trivial)
    (show unjudged (Call.read query) from rfl) (fun {_ call} _ hcall _ _ => ?_)
    (fun hknown hrely => hgrows hknown hrely.2.1) ?_
  · cases call with
    | insertEvaluation new => cases hcall
    | _ => trivial
  · intro world oracle hinv hknown
    refine hgrows (hquery world hinv hknown) ?_
    exact performCall_grows deployment thread (.read query) oracle world.1

/-- Recording an evaluation for the state that was asked for. -/
theorem record_judged (new : NewEvaluation) (state : JudgeState) :
    (judgedSpec deployment).Triple thread
      (fun world => Replays deployment world.1.store new.sessionId new.lastMessageId state ∧
        world.2.stateOf thread.number = some state)
      (perform (.insertEvaluation new)) fun _ world =>
        Replays deployment world.1.store new.sessionId new.lastMessageId state := by
  refine .perform ?_ (fun world _ hknown => ⟨state, hknown.2, hknown.1⟩) ?_
  · intro world later hknown hrely
    exact ⟨hknown.1.grow hrely.2.1, hrely.2.2.trans hknown.2⟩
  · intro world oracle later _ hknown _ hrely _
    have hgrows := performCall_grows deployment thread (.insertEvaluation new) oracle world.1
    exact (hknown.1.grow hgrows).grow hrely.2.1

/-! ## Briefs -/

/-- A reading whose state can be built again. -/
def Read (deployment : Deployment) (id : SessionId) (reading : TurnReading) (store : Store) : Prop :=
  Replays deployment store id reading.lastMessageId reading.state

/-- The reading, if there is one, can be built again. -/
def MayRead (deployment : Deployment) (id : SessionId) (reading : Option TurnReading)
    (store : Store) : Prop :=
  ∀ found, reading = some found → Read deployment id found store

/-- A reading that can be built again still can when the store has grown. -/
theorem lasting_mayRead (id : SessionId) (reading : Option TurnReading) :
    (judgedSpec deployment).Lasting thread anyCall
      fun world => MayRead deployment id reading world.1.store :=
  lasting_grows fun hknown hgrows found hfound => (hknown found hfound).grow hgrows

/-- The brief's evaluation is recorded for the state that the thread asked for. -/
theorem askBrief_judged (session : Session) (reading : TurnReading) (subject : Subject)
    (now : Int) :
    (judgedSpec deployment).Keeps thread
      (fun world => Read deployment session.sessionId reading world.1.store)
      (askBrief deployment session reading subject now) := by
  have hread : (judgedSpec deployment).Lasting thread anyCall
      fun world => Read deployment session.sessionId reading world.1.store :=
    lasting_grows Replays.grow
  have judge : (judgedSpec deployment).Keeps thread
      (fun world => Read deployment session.sessionId reading world.1.store)
      ((attempt (perform (.evaluate reading.state))).bind
        (judgedBrief deployment session reading subject now)) := by
    refine Spec.Learns.attempt_triple (learns_evaluate hread reading.state) (fun answers => ?_)
      fun failure => Spec.Keeps.done hread _
    -- Between the answer and its record the thread makes no other request.
    refine Spec.Triple.attempt_bind ?_ fun _ => Spec.Keeps.done hread _
    exact record_judged ⟨session.sessionId, deployment.briefQuestions, reading.lastMessageId,
      answers, subject.action, now⟩ reading.state
  refine .bind (.attempt (keeps_unjudged hread (says_query reports_unjudged rfl))) fun stored => ?_
  split
  · exact Spec.Keeps.done hread _
  · exact judge

/-- A brief is asked for a reading that can be built again, or not at all. -/
theorem briefSolvers_judged (session : Session) (subject : Subject)
    (reading : Option TurnReading) (now : Int) :
    (judgedSpec deployment).Keeps thread
      (fun world => MayRead deployment session.sessionId reading world.1.store)
      (briefSolvers deployment session subject reading now) := by
  have hread : (judgedSpec deployment).Lasting thread anyCall
      fun world => MayRead deployment session.sessionId reading world.1.store :=
    lasting_mayRead session.sessionId reading
  refine .bind (keeps_unjudged hread (says_query reports_unjudged rfl)) fun messages => ?_
  refine .bind (keeps_unjudged hread (says_query reports_unjudged rfl)) fun ready => ?_
  have sent : (judgedSpec deployment).Keeps thread
      (fun world => MayRead deployment session.sessionId reading world.1.store)
      (deliver (recipients deployment.solvers) session.disputeId
        ("brief" :: List.replicate (deployment.parts messages) "transcript") now) :=
    keeps_unjudged hread (says_deliver reports_unjudged _
      (fun _ _ => tell_unjudged _ _) now)
  cases reading with
  | none => exact sent
  | some reading =>
    cases ready with
    | false => exact sent
    | true =>
      refine Spec.Keeps.bind ?_ fun _ => sent
      refine (askBrief_judged session reading subject now).consequence
        (fun _ _ hknown => hknown reading rfl) ?_
      intro _ _ _ hknown found hfound
      cases hfound
      exact hknown

/-- A hand-off hands its reading on to the brief. -/
theorem handOff_judged (session : Session) (reason : HandoffReason) (reading : Option TurnReading)
    (now : Int) :
    (judgedSpec deployment).Keeps thread
      (fun world => MayRead deployment session.sessionId reading world.1.store)
      (handOff deployment session reason reading now) := by
  have hread : (judgedSpec deployment).Lasting thread anyCall
      fun world => MayRead deployment session.sessionId reading world.1.store :=
    lasting_mayRead session.sessionId reading
  have hclaim : Says deployment thread unjudged (perform (.handOff session reason now)) :=
    .perform rfl fun _ _ => trivial
  refine .bind (keeps_unjudged hread hclaim) fun claimed => ?_
  cases claimed with
  | none => exact Spec.Keeps.done hread false
  | some pending =>
    refine .bind (briefSolvers_judged session _ reading now) fun delivered => ?_
    have told : (judgedSpec deployment).Keeps thread
        (fun world => MayRead deployment session.sessionId reading world.1.store)
        (forEach (tellHandoff deployment session) Party.both) :=
      keeps_unjudged hread (.forEach fun party _ => says_tellHandoff reports_unjudged
        (fun other => send_unjudged _ other _) party)
    split
    · exact .bind (keeps_unjudged hread (says_briefDelivered reports_unjudged session pending now))
        fun _ => .bind told fun _ => Spec.Keeps.done hread true
    · exact .bind told fun _ => Spec.Keeps.done hread true

/-- So does the start of a guidance. -/
theorem guide_judged (session : Session) (path : Path) (reading : TurnReading) (now : Int) :
    (judgedSpec deployment).Keeps thread
      (fun world => MayRead deployment session.sessionId (some reading) world.1.store)
      (guide deployment session path reading now) := by
  have hread : (judgedSpec deployment).Lasting thread anyCall
      fun world => MayRead deployment session.sessionId (some reading) world.1.store :=
    lasting_mayRead session.sessionId (some reading)
  have hclaim : Says deployment thread unjudged (perform (.startGuiding session path now)) :=
    .perform rfl fun _ _ => trivial
  refine .bind (keeps_unjudged hread hclaim) fun claimed => ?_
  cases claimed with
  | none => exact Spec.Keeps.done hread ()
  | some pending =>
    refine .bind (briefSolvers_judged session _ _ now) fun delivered => ?_
    have guided : (judgedSpec deployment).Keeps thread
        (fun world => MayRead deployment session.sessionId (some reading) world.1.store)
        (sendGuides deployment session path) :=
      keeps_unjudged hread (says_sendGuides reports_unjudged
        (fun _ _ _ => send_unjudged _ _ _) path)
    split
    · exact .bind (keeps_unjudged hread (says_briefDelivered reports_unjudged session pending now))
        fun _ => .bind guided fun _ => Spec.Keeps.done hread ()
    · exact .bind guided fun _ => Spec.Keeps.done hread ()

/-- The last reading is made of the messages and the session that were read. -/
theorem lastReading_judged (session : Session) (messages : List Message) :
    (judgedSpec deployment).Learns thread (fun world => Reads world.1.store session messages)
      (lastReading deployment session messages)
      fun reading world => MayRead deployment session.sessionId reading world.1.store := by
  have hreads : (judgedSpec deployment).Lasting thread anyCall
      fun world => Reads world.1.store session messages := lasting_grows Reads.grow
  have nothing : ∀ {fact : World × Judged → Prop},
      (judgedSpec deployment).Lasting thread anyCall fact →
        (judgedSpec deployment).Learns thread fact (done (none : Option TurnReading))
          fun reading world => MayRead deployment session.sessionId reading world.1.store :=
    fun hfact => Spec.Learns.done hfact (fun hknown hrely => (lasting_mayRead _ _).rely hknown hrely)
      fun _ _ _ _ hfound => absurd hfound (Option.not_mem_none _)
  refine Spec.Triple.bind _ (keeps_unjudged hreads (says_query reports_unjudged rfl))
    (fun ready => ?_) fun _ _ _ hknown => ⟨hknown, fun _ heq => by cases heq⟩
  split
  · exact nothing hreads
  -- Who opened the dispute is read once more.
  let known (read : Option Evaluation × Option Initiator) (store : Store) : Prop :=
    ∀ openedBy, read.2 = some openedBy →
      (store.dispute session.disputeId).map Dispute.initiator = some openedBy
  have hknown : ∀ {read : Option Evaluation × Option Initiator} {store later : Store},
      known read store → store.Grows later → known read later :=
    fun hopened hgrows openedBy heq => hgrows.dispute (hopened openedBy heq)
  refine Spec.Triple.bind _ (learns_store _ known hreads hknown fun _ _ _ _ heq => heq)
    (fun read => ?_) fun _ _ _ hfailed => ⟨hfailed.1, fun _ heq => by cases heq⟩
  obtain ⟨last, openedBy⟩ := read
  have hboth : (judgedSpec deployment).Lasting thread anyCall fun world =>
      Reads world.1.store session messages ∧ known (last, openedBy) world.1.store :=
    hreads.and (lasting_grows hknown)
  refine Spec.Triple.consequence (?_ : (judgedSpec deployment).Learns thread
    (fun world => Reads world.1.store session messages ∧ known (last, openedBy) world.1.store) _
      fun reading world => MayRead deployment session.sessionId reading world.1.store)
    (fun _ _ hpost => ⟨hpost.1, hpost.2 _ rfl⟩) fun _ _ _ hpost => ⟨hpost.1.1, hpost.2⟩
  match last, openedBy with
  | none, _ => exact nothing hboth
  | some _, none => exact nothing hboth
  | some last, some openedBy =>
    refine Spec.Learns.done hboth (fun hread hrely => (lasting_mayRead _ _).rely hread hrely) ?_
    intro world _ hpost found hfound
    cases hfound
    exact hpost.1.replays (hpost.2 openedBy rfl)

/-! ## Turns -/

/-- One case for each action: what briefs the solvers has the turn's reading. -/
theorem act_judged (session : Session) (reading : TurnReading) (next : NextQuestions) (now : Int)
    (action : Action) :
    (judgedSpec deployment).Keeps thread
      (fun world => Read deployment session.sessionId reading world.1.store)
      (act deployment session reading next now action) := by
  have hread : (judgedSpec deployment).Lasting thread anyCall
      fun world => Read deployment session.sessionId reading world.1.store :=
    lasting_grows Replays.grow
  have some_of : ∀ {store : Store}, Read deployment session.sessionId reading store →
      MayRead deployment session.sessionId (some reading) store := by
    intro store hknown found hfound
    cases hfound
    exact hknown
  cases action with
  | ask buyer seller =>
    -- Questions show no reading to anybody.
    refine keeps_unjudged hread (.bind (.foldEach (fun firstInTurn party _ => ?_) true)
      fun _ _ => trivial)
    refine .bind (.forEach fun template _ =>
      says_sendTemplate reports_unjudged (send_unjudged _ _ _)) fun _ _ => ?_
    split
    · exact .bind (.perform rfl fun _ _ => trivial) fun _ _ => trivial
    · exact trivial
  | handoff reason =>
    refine .bind ?_ fun _ => Spec.Keeps.done hread ()
    exact (handOff_judged session reason (some reading) now).consequence
      (fun _ _ hknown => some_of hknown) fun _ _ _ hknown => hknown reading rfl
  | guide path =>
    exact (guide_judged session path reading now).consequence
      (fun _ _ hknown => some_of hknown) fun _ _ _ hknown => hknown reading rfl
  | hold =>
    refine keeps_unjudged hread (.bind (says_query reports_unjudged rfl) fun started _ => ?_)
    exact says_hold reports_unjudged (fun party => send_unjudged _ party _) rfl
  | wait => exact Spec.Keeps.done hread ()

/-- The evaluation of a turn is recorded for the state that was judged. -/
theorem decideAndAct_judged (session : Session) (messages : List Message) (phase : Phase)
    (state : JudgeState) (answers : Answers) (now : Int) :
    (judgedSpec deployment).Triple thread
      (fun world => Replays deployment world.1.store session.sessionId
        (Store.newestMessageId messages) state ∧ world.2.stateOf thread.number = some state)
      (decideAndAct deployment session messages phase state answers now) fun _ _ => True := by
  have hreplays : (judgedSpec deployment).Lasting thread anyCall fun world =>
      Replays deployment world.1.store session.sessionId (Store.newestMessageId messages) state :=
    lasting_grows Replays.grow
  have hknown : (judgedSpec deployment).Lasting thread unnoted fun world =>
      Replays deployment world.1.store session.sessionId (Store.newestMessageId messages) state ∧
        world.2.stateOf thread.number = some state :=
    (hreplays.of_imp fun _ => trivial).and (lasting_stateOf state)
  have hpre : Enough (judgedSpec deployment) thread unnoted fun world =>
      Replays deployment world.1.store session.sessionId (Store.newestMessageId messages) state ∧
        world.2.stateOf thread.number = some state := by
    intro _ call world hcall _ _
    cases call with
    | insertEvaluation new => cases hcall
    | _ => trivial
  have hset : ∀ party lang now, unnoted (.setLanguage session.sessionId party lang now) :=
    fun _ _ _ => rfl
  refine Spec.Triple.bind _ (keeps_beside hknown hpre (says_updateLanguages hset _ now))
    (fun changed => ?_) fun _ _ _ _ => trivial
  refine Spec.Triple.bind _ (learns_of_makes hknown hpre (makes_reload rfl)) (fun current => ?_)
    fun _ _ _ _ => trivial
  intro world hinv hcurrent
  -- The row was read again; it is the same session's.
  have hid : current.sessionId = session.sessionId := hcurrent.2 _ rfl
  rw [← hid] at hknown hpre
  refine (?_ : (judgedSpec deployment).Triple thread (fun world =>
    Replays deployment world.1.store current.sessionId (Store.newestMessageId messages) state ∧
      world.2.stateOf thread.number = some state) _ fun _ _ => True) world hinv
        (hid ▸ hcurrent.1)
  refine Spec.Triple.bind _ (keeps_beside hknown hpre (.perform rfl fun _ _ => trivial))
    (fun events => ?_) fun _ _ _ _ => trivial
  simp only []
  refine Spec.Triple.bind _ (record_judged ⟨current.sessionId, deployment.turnQuestions,
    Store.newestMessageId messages, answers, _, now⟩ state) (fun _ => ?_) fun _ _ _ _ => trivial
  refine Spec.Triple.bind _ (act_judged current ⟨state, answers, _, _⟩ _ now _) (fun _ => ?_)
    fun _ _ _ _ => trivial
  exact fun _ _ _ _ _ _ => trivial

/-- A turn records what it judged. -/
theorem turn_judged (id : SessionId) :
    TurnWalk (judgedSpec deployment) thread id unjudged (fun _ => True)
      (fun session messages openedBy world => Reads world.1.store session messages ∧
        (world.1.store.dispute session.disputeId).map Dispute.initiator = some openedBy)
      (fun _ _ => True) (fun state world => world.2.stateOf thread.number = some state) where
  lasting := Spec.Lasting.true
  enough {_ call} _ hcall _ _ := by
    cases call with
    | insertEvaluation new => cases hcall
    | _ => trivial
  reports := reports_unjudged
  guide _ _ _ := send_unjudged _ _ _
  lasting_loaded session messages openedBy :=
    ((lasting_grows Reads.grow).and (lasting_grows fun hopened hgrows => hgrows.dispute hopened)).of_imp
      fun _ => trivial
  load {session messages openedBy} world oracle hinv _ hload := by
    have hgrows := performCall_grows deployment thread (.load id) oracle world.1
    -- What `load` returned was stored at that instant, and rows only grow.
    obtain ⟨row, hrow, hrest⟩ := Option.bind_eq_some_iff.mp hload
    obtain ⟨dispute, hdispute, heq⟩ := Option.map_eq_some_iff.mp hrest
    cases heq
    have hid := Store.sessionId_of_session hrow
    subst hid
    have hopened : (world.1.store.dispute session.disputeId).map Dispute.initiator =
        some dispute.initiator := by
      rw [hdispute, Option.map_some]
    exact ⟨(Reads.of_list hinv.2.numbered ⟨session, hrow, rfl⟩).grow hgrows, hgrows.dispute hopened⟩
  flooded session messages openedBy _ now hid _ := by
    have hloaded : (judgedSpec deployment).Lasting thread anyCall fun world =>
        Reads world.1.store session messages ∧
          (world.1.store.dispute session.disputeId).map Dispute.initiator = some openedBy :=
      (lasting_grows Reads.grow).and (lasting_grows fun hopened hgrows => hgrows.dispute hopened)
    have hstrike : ∀ dispute party count last now, unjudged
        (.append ⟨dispute, some session.sessionId, .floodStrike party count last, now⟩) :=
      fun _ _ _ _ _ => rfl
    exact (keeps_unjudged hloaded (says_flooded reports_unjudged hstrike messages now)).consequence (fun _ _ hknown => hknown.2)
        fun _ _ _ hknown => ⟨hknown, fun _ => trivial, fun _ => trivial⟩
  flood session messages openedBy _ now hid _ := by
    refine Spec.Triple.bind _ ((lastReading_judged session messages).consequence
      (fun _ _ hknown => hknown.1.1) fun _ _ _ hknown => hknown) (fun last => ?_)
      fun _ _ _ _ => trivial
    refine Spec.Triple.bind _ ((handOff_judged session .flood last now).consequence
      (fun _ _ hknown => hknown.2 last rfl) fun _ _ _ hknown => hknown) (fun _ => ?_)
      fun _ _ _ _ => trivial
    exact fun _ _ _ _ _ _ => trivial
  unavailable session now hid :=
    (handOff_judged session .judgeUnavailable none now).consequence
      -- No reading goes along with this reason, so there is nothing to replay.
      (fun _ _ _ _ hfound => absurd hfound (Option.not_mem_none _)) fun _ _ _ _ => trivial
  lasting_asked state := by
    refine (lasting_stateOf state).of_imp fun {_ call} hread => ?_
    cases call with
    | read query => rfl
    | _ => cases hread
  -- The note of the call is what the run remembers of the judge's input.
  judge world state oracle _ _ hfails := by
    change (world.2.note thread.number (.evaluate state) oracle world.1.store).stateOf _ = _
    simp [Judged.note, Judged.stateOf, hfails]
  decide session messages openedBy phase answers now hid _ :=
    (decideAndAct_judged session messages phase _ answers now).consequence
      (fun _ _ hknown => ⟨hknown.1.2.1.replays hknown.1.2.2, hknown.2⟩) fun _ _ _ hdone => hdone
  join _ _ _ _ := trivial

/-! ## The timers -/

/-- A session that was listed is stored under its id. -/
def Listed (session : Session) (store : Store) : Prop :=
  ∃ row, store.session session.sessionId = some row ∧ row.terms = session.terms

/-- A listed session is still stored when the store has grown. -/
theorem Listed.grow {session : Session} {store later : Store} (h : Listed session store)
    (hgrows : store.Grows later) : Listed session later := by
  obtain ⟨row, hrow, hterms⟩ := h
  obtain ⟨found, hfound, hsame⟩ := hgrows.session hrow
  exact ⟨found, hfound, hsame.trans hterms⟩

/-- The messages and events that a pass reads of a session. -/
theorem learns_session (session : Session) :
    (judgedSpec deployment).Learns thread (fun world => Listed session world.1.store)
      (perform (.read fun store =>
        (store.listMessages session.sessionId, store.listEvents session.disputeId)))
      fun read world => Reads world.1.store session read.1 :=
  learns_store _ (fun (read : List Message × List Event) store => Reads store session read.1)
    (lasting_grows Listed.grow) (fun hread hgrows => hread.grow hgrows)
    fun _ hinv hlisted => Reads.of_list hinv.2.numbered hlisted

/-- What is done with the last reading. -/
theorem reading_judged {α : Type} (session : Session) (messages : List Message)
    {next : Option TurnReading → Daemon α}
    (hnext : ∀ reading, (judgedSpec deployment).Keeps thread
      (fun world => MayRead deployment session.sessionId reading world.1.store) (next reading)) :
    (judgedSpec deployment).Keeps thread (fun world => Reads world.1.store session messages)
      ((lastReading deployment session messages).bind next) := by
  have hreads : (judgedSpec deployment).Lasting thread anyCall
      fun world => Reads world.1.store session messages := lasting_grows Reads.grow
  refine Spec.Triple.bind _ (lastReading_judged session messages) (fun reading => ?_)
    fun _ _ _ hread => hread.1
  exact (Spec.Triple.frame hreads (.any _) (hnext reading)).consequence
    (fun _ _ hread => ⟨hread.2 reading rfl, hread.1⟩) fun _ _ _ hboth => hboth.2

/-- A hand-off by the timers has the session's last reading. -/
theorem tickSession_judged (session : Session) (now : Int) :
    (judgedSpec deployment).Keeps thread (fun world => Listed session world.1.store)
      (tickSession deployment session now) := by
  refine Spec.Triple.bind _ (learns_session session) (fun read => ?_) fun _ _ _ hread => hread.1
  obtain ⟨messages, history⟩ := read
  have hreads : (judgedSpec deployment).Lasting thread anyCall
      fun world => Reads world.1.store session messages := lasting_grows Reads.grow
  refine Spec.Triple.consequence (?_ : (judgedSpec deployment).Keeps thread
    (fun world => Reads world.1.store session messages) _)
    (fun _ _ hread => hread.2 _ rfl) fun _ _ _ hread => hread.known
  simp only []
  split
  · exact Spec.Keeps.done hreads ()
  · exact keeps_unjudged hreads (.forEach fun party _ =>
      says_sendTemplate reports_unjudged (send_unjudged _ party _))
  · refine reading_judged session messages fun last => ?_
    exact (handOff_judged session _ last now).bind fun _ =>
      Spec.Keeps.done (lasting_mayRead _ last) ()

/-- A brief that is retried has the reading of the messages read. -/
theorem retryBrief_judged (session : Session) (messages : List Message) (now : Int)
    (brief : Int × Subject) :
    (judgedSpec deployment).Keeps thread (fun world => Reads world.1.store session messages)
      (retryBrief deployment session messages now brief) := by
  refine reading_judged session messages fun last => ?_
  have hread : (judgedSpec deployment).Lasting thread anyCall
      fun world => MayRead deployment session.sessionId last world.1.store := lasting_mayRead _ last
  refine (briefSolvers_judged session brief.2 last now).bind fun delivered => ?_
  split
  · exact keeps_unjudged hread (says_briefDelivered reports_unjudged session brief.1 now)
  · exact Spec.Keeps.done hread ()

/-- The retries read the messages of the listed session. -/
theorem retryUndelivered_judged (session : Session) (now : Int) :
    (judgedSpec deployment).Keeps thread (fun world => Listed session world.1.store)
      (retryUndelivered deployment session now) := by
  refine Spec.Triple.bind _ (learns_session session) (fun read => ?_) fun _ _ _ hread => hread.1
  obtain ⟨messages, history⟩ := read
  have hreads : (judgedSpec deployment).Lasting thread anyCall
      fun world => Reads world.1.store session messages := lasting_grows Reads.grow
  refine Spec.Triple.consequence (?_ : (judgedSpec deployment).Keeps thread
    (fun world => Reads world.1.store session messages) _)
    (fun _ _ hread => hread.2 _ rfl) fun _ _ _ hread => hread.known
  simp only []
  split
  · exact Spec.Keeps.done hreads ()
  refine .bind (.forEach hreads fun brief _ => retryBrief_judged session messages now brief)
    fun _ => ?_
  exact keeps_unjudged hreads (says_retryParties reports_unjudged
    (fun party => send_unjudged _ party _) (fun _ _ _ => send_unjudged _ _ _)
    (fun party => send_unjudged _ party _) messages _)

/-- The pass over one listed session. -/
theorem tickLive_judged (session : Session) (now : Int) :
    (judgedSpec deployment).Keeps thread (fun world => Listed session world.1.store)
      (tickLive deployment now session) := by
  have hlisted : (judgedSpec deployment).Lasting thread anyCall
      fun world => Listed session world.1.store := lasting_grows Listed.grow
  refine .bind (.attempt ?_) fun _ => .bind (.attempt (retryUndelivered_judged session now))
    fun _ => Spec.Keeps.done hlisted ()
  split
  · refine .bind (keeps_unjudged hlisted (says_chatOpen reports_unjudged (fun _ => rfl) session))
      fun isOpen => ?_
    split
    · exact tickSession_judged session now
    · refine .bind ?_ fun _ => Spec.Keeps.done hlisted ()
      exact (Spec.Triple.frame hlisted (.any _)
        (handOff_judged session .openingFailed none now)).consequence
        (fun _ _ hknown => ⟨fun _ hfound => absurd hfound (Option.not_mem_none _), hknown⟩)
        fun _ _ _ hboth => hboth.2
  · exact Spec.Keeps.done hlisted ()

/-- A live session that is listed is stored under its id. -/
theorem listed_of_mem {world : World} (h : world.core.Inv) {session : Session}
    (hsession : session ∈ world.store.listLive) : Listed session world.store := by
  have hmem : session ∈ world.store.sessions :=
    List.mem_of_mem_filter ((List.mem_insertionSort _).mp hsession)
  have hrow : world.core.sessions[session.sessionId]? = some session := h.getElem?_of_mem hmem
  refine ⟨session, ?_, rfl⟩
  rw [h.session_eq]
  exact hrow

/-- A pass of the timers records what it judged. -/
theorem tick_judged (now : Int) :
    (judgedSpec deployment).Triple thread (fun _ => True) (tick deployment now) fun _ _ => True := by
  let known (live : List Session) (store : Store) : Prop := ∀ session ∈ live, Listed session store
  have hgrows : ∀ {live : List Session} {store later : Store}, known live store →
      store.Grows later → known live later :=
    fun hlive hlater session hsession => (hlive session hsession).grow hlater
  have hlist : (judgedSpec deployment).Learns thread (fun _ => True)
      (perform (.read Store.listLive)) fun live world => known live world.1.store :=
    learns_store _ known Spec.Lasting.true hgrows fun _ hinv _ _ => listed_of_mem hinv.1
  refine Spec.Triple.bind _ hlist (fun live => ?_) fun _ _ _ _ => trivial
  have hlive : (judgedSpec deployment).Lasting thread anyCall
      fun world => known live world.1.store := lasting_grows hgrows
  refine Spec.Triple.consequence (?_ : (judgedSpec deployment).Keeps thread
    (fun world => known live world.1.store) _) (fun _ _ hknown => hknown.2 live rfl)
    fun _ _ _ _ => trivial
  refine .bind (.forEach hlive fun session hsession => ?_) fun _ => ?_
  · exact (Spec.Triple.frame hlive (.any _) (tickLive_judged session now)).consequence
      (fun _ _ hknown => ⟨hknown session hsession, hknown⟩) fun _ _ _ hboth => hboth.2
  · refine .bind (keeps_unjudged hlive (says_finishPending reports_unjudged close_unjudged.finishes _ now))
      fun _ => ?_
    exact keeps_unjudged hlive (says_retryOpeningNotices reports_unjudged giveUp_unjudged now)

/-! ## Every task -/

/-- A task that is no turn and no pass of the timers. -/
theorem runs_unjudged {task : Task} (hturn : ∀ id, task ≠ .turn id) (htick : task ≠ .tick) :
    MayRun deployment unjudged task := by
  have consider : MayConsider deployment unjudged :=
    { insert := fun _ _ _ _ => rfl
      openChat := fun _ => rfl
      closeChat := fun _ => rfl
      greet := fun id _ _ => send_unjudged id _ _
      abandon := fun _ _ _ _ => rfl
      activate := fun _ _ _ => rfl
      started := fun _ => tell_unjudged _ _
      opened := fun _ _ _ => rfl
      giveUp := giveUp_unjudged
      claim := fun _ _ _ => rfl
      take := fun _ => rfl
      notOpened := fun _ _ _ => rfl
      release := fun _ => rfl }
  have notify : MayNotify unjudged :=
    ⟨fun dispute _ _ => tell_unjudged dispute _, fun _ _ => rfl, fun _ _ => rfl, fun _ => rfl⟩
  cases task with
  | consider dispute => exact consider
  | judgeChecks started => exact ⟨consider, rfl⟩
  | turn id => exact absurd rfl (hturn id)
  | tick => exact absurd rfl htick
  | handleEvent dispute => exact notify
  | remind renotifyAfter => exact notify
  | finish dispute status byParties => exact close_unjudged
  | finishPending => exact close_unjudged
  | resume => exact fun _ => rfl

/-- **Every task keeps the log.** -/
theorem judged_launches (deployment : Deployment) :
    (judgedExtension deployment).contract.Launches := by
  have hbase : (contract deployment Condition.always).Launches :=
    launches deployment Condition.always
  have hbeside : (judgedContract deployment).Launches :=
    hbase.beside (Condition.within_always Condition.always)
  apply Extension.launches hbeside
  intro thread oracle world world' hinv hjudged hcond hlaunch
  have hinv' : (judgedSpec deployment).inv world' :=
    ⟨(judgedContract deployment).launch_inv hinv hcond hlaunch,
      (judgedExtension deployment).launch_inv hinv hjudged hcond hlaunch⟩
  refine (?_ : (judgedSpec deployment).Triple thread (fun _ => True)
    (program deployment thread.role) fun _ _ => True) world' hinv' trivial
  obtain ⟨number, role⟩ := thread
  by_cases hturn : ∃ id, role = .turn id
  · obtain ⟨id, rfl⟩ := hturn
    exact (turn_judged id).turnLogged
  by_cases htick : role = .tick
  · subst htick
    refine Spec.Triple.bind _ (keeps_unjudged .true (says_query reports_unjudged rfl))
      (fun now => ?_) fun _ _ _ _ => trivial
    refine Spec.Triple.attempt_bind (tick_judged now) fun _ => ?_
    exact keeps_unjudged .true (.perform rfl fun _ _ => trivial)
  · exact keeps_unjudged .true (says_others reports_unjudged (fun id hrole => hturn ⟨id, hrole⟩)
      htick (runs_unjudged (fun id hrole => hturn ⟨id, hrole⟩) htick))

/-! ## Runs -/

/-- The first start, with nothing judged. -/
def judgedStart (clock : Int) : Conf Call String Task (World × Judged) :=
  ⟨(World.start clock, .empty), []⟩

/-- Every state a run reaches keeps the log. -/
theorem judged_of_run {clock : Int} {conf : Conf Call String Task (World × Judged)}
    (hrun : (judgeLog deployment).beside.RunsTo Condition.always (judgedStart clock) conf) :
    (judgedExtension deployment).contract.Kept conf := by
  have hempty : Judged.Inv deployment (World.start clock).store .empty := by
    refine ⟨fun i row hrow => ?_, rfl, fun entry hentry => absurd hentry List.not_mem_nil⟩
    simp [World.start, Store.empty] at hrow
  have hstart : (judgedExtension deployment).contract.Kept (judgedStart clock) :=
    Contract.kept_of_start ⟨inv_start clock, hempty⟩
  exact (hstart.run (judged_launches deployment) hrun).1

/-- Whatever is done, the store grows. -/
theorem grows_of_moves {world later : World × Judged}
    (h : (judgedExtension deployment).contract.Moves world later) :
    world.1.store.Grows later.1.store := by
  cases h with
  | call _ _ _ _ => exact performCall_grows deployment _ _ _ _
  | launch _ _ hlaunch =>
    rw [(launch_traffic ((judgeLog deployment).launch_cases hlaunch).1).1]
    exact .refl world.1.store
  | happen _ _ hhappen =>
    rcases (judgeLog deployment).happen_cases hhappen with ⟨_, -, halone, -⟩ | ⟨deed, -⟩
    · exact happen_grows halone
    · exact nomatch deed
  | restart _ _ => exact .refl world.1.store

/-- **Every judged state can be replayed.** In every run, with each recorded evaluation goes the
state its task was answered about last, and at any later point the stored session, and its messages
up to the evaluation's cutoff in store order, build that state. -/
theorem judged_states_replay {clock : Int}
    {conf conf' : Conf Call String Task (World × Judged)}
    (hrun : (judgeLog deployment).beside.RunsTo Condition.always (judgedStart clock) conf)
    (hlater : (judgeLog deployment).beside.RunsTo Condition.always conf conf') :
    conf.world.2.recorded.map Prod.fst = conf.world.1.store.evaluations ∧
      ∀ entry ∈ conf.world.2.recorded, ∃ state, entry.2 = some state ∧
        replay deployment conf'.world.1.store entry.1.sessionId entry.1.lastMessageId =
          some state := by
  have hkept := judged_of_run hrun
  have hmoves := (hkept.run (judged_launches deployment) hlater).2
  have hjudged : Judged.Inv deployment conf.world.1.store conf.world.2 := hkept.1.2
  refine ⟨hjudged.recorded, fun entry hentry => ?_⟩
  obtain ⟨state, hstate, hreplays⟩ := hjudged.replays entry hentry
  have hkeeps := Contract.Moves.run_induction (fun world => Replays deployment world.1.store
    entry.1.sessionId entry.1.lastMessageId state)
    (fun hbefore hmove => hbefore.grow (grows_of_moves hmove)) hmoves hreplays
  exact ⟨state, hstate, hkeeps.built⟩

/-- Where a turn was judged, its brief was judged, and the brief is about to be sent again. -/
def judgedConf : Conf Call String Task (World × Judged) :=
  (judgeLog smallDeployment).beside.after Condition.always (judgedStart 1000)
    (briefAgainSteps.map Choice.beside)

/-- A message arrives that the buyer's clock puts before all others. -/
def backdatedConf : Conf Call String Task (World × Judged) :=
  (judgeLog smallDeployment).beside.after Condition.always judgedConf
    ([writes 2 .buyer 500].map Choice.beside)

/-- Both evaluations replay in a store that has since got a message dated before all others. -/
theorem judged_states_replay_backdated :
    judgedConf.world.2.recorded.length = 2 ∧
      (judgedConf.world.2.recorded.map Prod.fst = judgedConf.world.1.store.evaluations ∧
        ∀ entry ∈ judgedConf.world.2.recorded, ∃ state, entry.2 = some state ∧
          replay smallDeployment backdatedConf.world.1.store entry.1.sessionId
            entry.1.lastMessageId = some state) :=
  ⟨by decide +kernel, judged_states_replay
    ((judgeLog smallDeployment).beside.runsTo_after (by decide +kernel))
    ((judgeLog smallDeployment).beside.runsTo_after (by decide +kernel))⟩

end Serbero
