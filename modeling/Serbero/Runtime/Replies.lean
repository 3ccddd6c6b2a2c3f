import Serbero.Lib.Companion
import Serbero.Mediation.Feedback
import Serbero.Runtime.Ledger
import Serbero.Runtime.Lifecycle

/-! # Solver replies over whole runs

A reply is linked by times: a brief is stamped when it is sent, an evaluation when its turn began.
Beside the daemon, a desk hears the solvers' replies and notes how many evaluations were stored when
each brief went out. -/

namespace Serbero

open Pool

/-! ## The desk -/

/-- A solver's reply, as delivered. -/
structure Reply where
  solver : Nat
  feedback : Feedback
  source : Source

/-- The recorded feedback, and what is noted of the briefs. -/
structure Replies where
  log : List SolverFeedback
  /-- For the record: the briefs a solver got and that are not recorded yet, each with the thread
  that sends it, its dispute, and how many evaluations were stored when it went out. -/
  sending : List (Nat × DisputeId × Nat)
  /-- For the record: the recorded briefs, each with how many evaluations were stored when it went
  out. -/
  briefs : List (Event × Nat)

/-- Nothing was sent and nothing replied. -/
def Replies.empty : Replies := ⟨[], [], []⟩

/-- A solver got a brief. -/
def EventKind.isBrief : EventKind → Bool
  | .notificationSent _ notification => notification == "brief"
  | _ => false

/-- The row of a new event. -/
def NewEvent.row (new : NewEvent) (id : Int) : Event :=
  { id := id
    disputeId := new.disputeId
    sessionId := new.sessionId
    kind := new.kind
    createdAt := new.now }

namespace Replies

variable (replies : Replies)

/-- How many evaluations were stored when the brief that the thread records went out; as many as now
when it is the record that comes first. -/
def storedAt (thread : Nat) (dispute : DisputeId) (now : Nat) : Nat :=
  ((replies.sending.find? fun entry => entry.1 == thread && entry.2.1 == dispute).map
    fun entry => entry.2.2).getD now

/-- What is noted of a call: a brief goes out, a brief is recorded. -/
def note {β : Type} (thread : Nat) (call : Call β) (oracle : Oracle) (world : World) : Replies :=
  let others := replies.sending.filter fun entry => entry.1 != thread
  let stored := world.store.evaluations.length
  match call with
  | .sendDm _ dispute notification =>
    if notification = "brief" ∧ oracle.fails = none then
      { replies with sending := others ++ [(thread, dispute, stored)] }
    else replies
  | .append new =>
    if new.kind.isBrief then
      { replies with
        sending := others
        briefs :=
          if oracle.fails = none then
            replies.briefs ++ [(new.row (world.store.events.length + 1),
              replies.storedAt thread new.disputeId stored)]
          else replies.briefs }
    else replies
  | _ => replies

/-- A reply arrives: anyone but a configured solver is ignored. -/
def hear (deployment : Deployment) (reply : Reply) (world : World) : Replies :=
  if deployment.solvers.any fun solver => solver.pubkey == reply.solver then
    { replies with
      log := (recordFeedback world.store replies.log reply.solver reply.feedback reply.source
        world.clock).2 }
  else replies

end Replies

/-- The desk beside the daemon. -/
def feedbackDesk (deployment : Deployment) : Companion (machine deployment) Reply Replies where
  call thread call oracle world replies := replies.note thread.number call oracle world
  launch _ _ _ replies := replies
  happen _ _ replies := replies
  restart _ _ replies := { replies with sending := [] }
  deed reply world replies := some (replies.hear deployment reply world)

/-! ## What a link should be -/

/-- A session's turn evaluations that answer the question, among these. -/
def judgments (deployment : Deployment) (evaluations : List Evaluation) (id : SessionId)
    (question : String) : List Evaluation :=
  evaluations.filter fun evaluation => evaluation.sessionId == id &&
    evaluation.ofTurn deployment && evaluation.answers.contains question

/-- The reply answers the newest brief the solver got about the dispute, and is linked to the newest
of the turn evaluations that answer the question and were stored when that brief went out. -/
structure Linked (deployment : Deployment) (store : Store) (replies : Replies) (reply : Reply)
    (recorded : Recorded) (brief : Event) (session : Session) (evaluation : Evaluation) : Prop where
  named : ∀ id, reply.feedback.disputeId = some id → recorded.disputeId = id
  unnamed : reply.feedback.disputeId = none →
    (store.events.filter fun event =>
      event.tells reply.solver "brief" reply.source.answersUntil).getLast? = some brief
  newest : ((store.listEvents recorded.disputeId).filter fun event =>
    event.tells reply.solver "brief" reply.source.answersUntil).getLast? = some brief
  sent : ∃ stored, (brief, stored) ∈ replies.briefs
  latest : store.latestForDispute recorded.disputeId = some session
  judged : ∀ stored, (brief, stored) ∈ replies.briefs →
    (judgments deployment (store.evaluations.take stored) session.sessionId
      reply.feedback.question).getLast? = some evaluation
  evaluation : evaluation.id = recorded.evaluationId

/-- Every reply that would be recorded now is linked as it should be, and no message is recorded
twice. -/
structure FeedbackLaw (deployment : Deployment) (world : World) (replies : Replies) : Prop where
  links : ∀ (reply : Reply) (recorded : Recorded),
    (recordFeedback world.store replies.log reply.solver reply.feedback reply.source
      world.clock).1 = some recorded →
        ∃ brief session evaluation,
          Linked deployment world.store replies reply recorded brief session evaluation
  once : (replies.log.map SolverFeedback.source).Nodup

/-! ## When the times tell the order -/

/-- A turn evaluation may be recorded: its turn began after every brief of its dispute that was
recorded before. -/
def mayJudge (world : World) (new : NewEvaluation) : Bool :=
  (world.store.disputeOf new.sessionId).any fun dispute =>
    (world.store.listEvents dispute).all fun event =>
      !event.kind.isBrief || decide (event.createdAt < new.now)

/-- The turn evaluations of a dispute, among these. -/
def turnsOf (deployment : Deployment) (store : Store) (evaluations : List Evaluation)
    (dispute : DisputeId) : List Evaluation :=
  evaluations.filter fun evaluation => evaluation.ofTurn deployment &&
    store.disputeOf evaluation.sessionId == some dispute

/-- A brief may be recorded: the turns of its dispute evaluated before it went out did not begin
later, and those evaluated since did. -/
def Replies.mayBrief (deployment : Deployment) (replies : Replies) (thread : Nat) (world : World)
    (new : NewEvent) : Bool :=
  let store := world.store
  let stored := replies.storedAt thread new.disputeId store.evaluations.length
  ((turnsOf deployment store (store.evaluations.take stored) new.disputeId).all fun evaluation =>
      decide (evaluation.createdAt ≤ new.now)) &&
    (turnsOf deployment store (store.evaluations.drop stored) new.disputeId).all fun evaluation =>
      decide (new.now < evaluation.createdAt)

/-- The briefs and the turn evaluations of a dispute are stamped in the order in which they are
made, and the answers of a brief are to its own questions, as the judge's adapter checks. -/
def inOrder (deployment : Deployment) :
    Condition Call Task Oracle (Happening ⊕ Reply) (World × Replies) where
  call thread call oracle world :=
    match call with
    | .insertEvaluation new =>
      if new.questionSetVersion = deployment.briefQuestions then new.answers.offTurn
      else oracle.fails.isSome || mayJudge world.1 new
    | .append new => !new.kind.isBrief || oracle.fails.isSome ||
        world.2.mayBrief deployment thread.number world.1 new
    | _ => true
  launch _ _ _ := true
  happen _ _ := true
  restart _ _ := true

/-! ## What the desk keeps -/

variable {deployment : Deployment}

/-- What was stored before a moment is stamped before it, what was stored after it is not. -/
structure Replies.Inv (deployment : Deployment) (world : World) (replies : Replies) : Prop where
  /-- Every turn evaluation is of a session. -/
  known : ∀ evaluation ∈ world.store.evaluations, evaluation.ofTurn deployment = true →
    (world.store.session evaluation.sessionId).isSome
  offTurn : ∀ evaluation ∈ world.store.evaluations, evaluation.ofTurn deployment = false →
    evaluation.answers.offTurn = true
  sending : ∀ entry ∈ replies.sending, entry.2.2 ≤ world.store.evaluations.length
  recorded : replies.briefs.map Prod.fst = world.store.events.filter fun event => event.kind.isBrief
  early : ∀ entry ∈ replies.briefs, entry.2 ≤ world.store.evaluations.length ∧
    ∀ evaluation ∈ world.store.evaluations.take entry.2, evaluation.ofTurn deployment = true →
      world.store.disputeOf evaluation.sessionId = some entry.1.disputeId →
        evaluation.createdAt ≤ entry.1.createdAt
  late : ∀ entry ∈ replies.briefs, ∀ evaluation ∈ world.store.evaluations.drop entry.2,
    evaluation.ofTurn deployment = true →
      world.store.disputeOf evaluation.sessionId = some entry.1.disputeId →
        entry.1.createdAt < evaluation.createdAt
  once : (replies.log.map SolverFeedback.source).Nodup

/-- A session keeps its dispute. -/
theorem disputeOf_eq {world later : World} (hinv : world.core.Inv) (hlater : later.core.Inv)
    (hfollows : world.Follows later) {id : SessionId} (h : (world.store.session id).isSome) :
    later.store.disputeOf id = world.store.disputeOf id := by
  obtain ⟨session, hsession⟩ := Option.isSome_iff_exists.mp h
  have hrow := hsession
  rw [hinv.session_eq] at hrow
  obtain ⟨found, hfound, hbecomes, -⟩ := hfollows.core.sessions id session hrow
  rw [← hlater.session_eq] at hfound
  rw [Store.disputeOf, Store.disputeOf, hsession, hfound, Option.map_some, Option.map_some,
    hbecomes.disputeId]

namespace Replies.Inv

variable {world later : World} {replies replies' : Replies}

/-- What adds no evaluation and no brief keeps the invariant. -/
theorem keep (h : Replies.Inv deployment world replies)
    (hevaluations : later.store.evaluations = world.store.evaluations)
    (hbriefs : (later.store.events.filter fun event => event.kind.isBrief) =
      world.store.events.filter fun event => event.kind.isBrief)
    (hdispute : ∀ id, (world.store.session id).isSome →
      (later.store.session id).isSome ∧ later.store.disputeOf id = world.store.disputeOf id) :
    Replies.Inv deployment later replies where
  known evaluation hmem hturn := by
    rw [hevaluations] at hmem
    exact (hdispute _ (h.known evaluation hmem hturn)).1
  offTurn evaluation hmem := h.offTurn evaluation (hevaluations ▸ hmem)
  sending entry hentry := by
    rw [hevaluations]
    exact h.sending entry hentry
  recorded := h.recorded.trans hbriefs.symm
  early entry hentry := by
    obtain ⟨hle, hearly⟩ := h.early entry hentry
    rw [hevaluations]
    refine ⟨hle, fun evaluation hmem hturn => ?_⟩
    rw [(hdispute _ (h.known evaluation (List.mem_of_mem_take hmem) hturn)).2]
    exact hearly evaluation hmem hturn
  late entry hentry evaluation hmem hturn := by
    rw [hevaluations] at hmem
    rw [(hdispute _ (h.known evaluation (List.mem_of_mem_drop hmem) hturn)).2]
    exact h.late entry hentry evaluation hmem hturn
  once := h.once

/-- The desk may forget that briefs are under way. -/
theorem forget (h : Replies.Inv deployment world replies) {sending : List (Nat × DisputeId × Nat)}
    (hsending : ∀ entry ∈ sending, entry ∈ replies.sending) :
    Replies.Inv deployment world { replies with sending := sending } :=
  { h with sending := fun entry hentry => h.sending entry (hsending entry hentry) }

/-- A brief goes out: every evaluation was stored before. -/
theorem send (h : Replies.Inv deployment world replies) (thread : Nat) (dispute : DisputeId)
    {sending : List (Nat × DisputeId × Nat)}
    (hsending : ∀ entry ∈ sending, entry ∈ replies.sending) :
    Replies.Inv deployment world
      { replies with
        sending := sending ++ [(thread, dispute, world.store.evaluations.length)] } where
  known := h.known
  offTurn := h.offTurn
  sending entry hentry := by
    rcases List.mem_append.mp hentry with hold | hnew
    · exact h.sending entry (hsending entry hold)
    · rw [List.mem_singleton.mp hnew]
  recorded := h.recorded
  early := h.early
  late := h.late
  once := h.once

/-- A brief under way found no more evaluations than there are. -/
theorem storedAt (h : Replies.Inv deployment world replies) (thread : Nat) (dispute : DisputeId) :
    replies.storedAt thread dispute world.store.evaluations.length ≤
      world.store.evaluations.length := by
  unfold Replies.storedAt
  cases hfound : replies.sending.find? fun entry => entry.1 == thread && entry.2.1 == dispute with
  | none => exact Nat.le_refl _
  | some entry => exact h.sending entry (List.mem_of_find?_eq_some hfound)

/-- A turn of a dispute, among the turns of it. -/
theorem mem_turnsOf {store : Store} {evaluations : List Evaluation} {dispute : DisputeId}
    {evaluation : Evaluation} (hmem : evaluation ∈ evaluations)
    (hturn : evaluation.ofTurn deployment = true)
    (hdispute : store.disputeOf evaluation.sessionId = some dispute) :
    evaluation ∈ turnsOf deployment store evaluations dispute := by
  refine List.mem_filter.mpr ⟨hmem, ?_⟩
  rw [hturn, hdispute, Bool.true_and, beq_self_eq_true]

/-- A brief is recorded. -/
theorem brief (h : Replies.Inv deployment world replies) {new : NewEvent} (thread : Nat)
    (hbrief : new.kind.isBrief = true)
    (hmay : replies.mayBrief deployment thread world new = true)
    {sending : List (Nat × DisputeId × Nat)}
    (hsending : ∀ entry ∈ sending, entry ∈ replies.sending) :
    Replies.Inv deployment (world.withStore (world.store.append new))
      { replies with
        sending := sending
        briefs := replies.briefs ++ [(new.row (world.store.events.length + 1),
          replies.storedAt thread new.disputeId world.store.evaluations.length)] } := by
  rw [Replies.mayBrief, Bool.and_eq_true, List.all_eq_true, List.all_eq_true] at hmay
  obtain ⟨hearly, hlate⟩ := hmay
  refine ⟨h.known, h.offTurn, fun entry hentry => h.sending entry (hsending entry hentry), ?_,
    fun entry hentry => ?_, fun entry hentry evaluation hmem hturn hdispute => ?_, h.once⟩
  · have hnew : (new.row (world.store.events.length + 1)).kind.isBrief = true := hbrief
    change _ = (world.store.events ++ [new.row (world.store.events.length + 1)]).filter _
    rw [List.map_append, h.recorded, List.filter_append, List.filter_singleton, hnew]
    rfl
  · rcases List.mem_append.mp hentry with hold | hnew
    · exact h.early entry hold
    rw [List.mem_singleton.mp hnew]
    refine ⟨h.storedAt thread new.disputeId, fun evaluation hmem hturn hdispute => ?_⟩
    exact of_decide_eq_true (hearly evaluation (mem_turnsOf hmem hturn hdispute))
  · rcases List.mem_append.mp hentry with hold | hnew
    · exact h.late entry hold evaluation hmem hturn hdispute
    · rw [List.mem_singleton.mp hnew] at hmem hdispute ⊢
      exact of_decide_eq_true (hlate evaluation (mem_turnsOf hmem hturn hdispute))

/-- An evaluation is recorded: a brief's off turn, or a turn's after all briefs. -/
theorem judge (h : Replies.Inv deployment world replies) {new : NewEvaluation}
    (hbrief : new.questionSetVersion = deployment.briefQuestions → new.answers.offTurn = true)
    (hturn : new.questionSetVersion ≠ deployment.briefQuestions →
      mayJudge world new = true) :
    Replies.Inv deployment (world.withStore (world.store.insertEvaluation new)) replies := by
  obtain ⟨evaluation, hadded, hsession, hversion, hanswers, hstamp⟩ :
      ∃ evaluation : Evaluation,
        (world.store.insertEvaluation new).evaluations = world.store.evaluations ++ [evaluation] ∧
          evaluation.sessionId = new.sessionId ∧
            evaluation.questionSetVersion = new.questionSetVersion ∧
              evaluation.answers = new.answers ∧ evaluation.createdAt = new.now :=
    ⟨_, rfl, rfl, rfl, rfl, rfl⟩
  -- A turn's evaluation is later than every brief of its dispute.
  have may : evaluation.ofTurn deployment = true → ∃ dispute,
      world.store.disputeOf evaluation.sessionId = some dispute ∧
        ∀ event ∈ world.store.events, event.disputeId = dispute → event.kind.isBrief = true →
          event.createdAt < evaluation.createdAt := by
    intro hofTurn
    rw [Evaluation.ofTurn, bne_iff_ne, hversion] at hofTurn
    obtain ⟨dispute, hdispute, hmay⟩ := (Option.any_eq_true _ _).mp (hturn hofTurn)
    rw [List.all_eq_true] at hmay
    rw [hsession, hstamp]
    refine ⟨dispute, hdispute, fun event hevent hid hkind => ?_⟩
    have hafter := hmay event (List.mem_filter.mpr ⟨hevent, beq_iff_eq.mpr hid⟩)
    simpa [hkind] using hafter
  constructor
  · intro found hfound hofTurn
    rw [World.withStore, hadded] at hfound
    rcases List.mem_append.mp hfound with hold | hnew
    · exact h.known found hold hofTurn
    · rw [List.mem_singleton.mp hnew] at hofTurn ⊢
      obtain ⟨dispute, hdispute, -⟩ := may hofTurn
      obtain ⟨session, hrow, -⟩ := Option.map_eq_some_iff.mp hdispute
      exact Option.isSome_iff_exists.mpr ⟨session, hrow⟩
  · intro found hfound hofTurn
    rw [World.withStore, hadded] at hfound
    rcases List.mem_append.mp hfound with hold | hnew
    · exact h.offTurn found hold hofTurn
    · rw [List.mem_singleton.mp hnew] at hofTurn ⊢
      rw [Evaluation.ofTurn, bne_eq_false_iff_eq, hversion] at hofTurn
      rw [hanswers]
      exact hbrief hofTurn
  · intro entry hentry
    rw [World.withStore, hadded, List.length_append]
    -- The evaluations seen at the start of a send stay in place, so what came before it does too.
    exact Nat.le_add_right_of_le (h.sending entry hentry)
  · exact h.recorded
  · intro entry hentry
    obtain ⟨hle, hearly⟩ := h.early entry hentry
    rw [World.withStore, hadded, List.length_append, List.take_append_of_le_length hle]
    exact ⟨Nat.le_add_right_of_le hle, hearly⟩
  · intro entry hentry found hfound hofTurn hdispute
    obtain ⟨hle, -⟩ := h.early entry hentry
    rw [World.withStore, hadded, List.drop_append_of_le_length hle] at hfound
    rcases List.mem_append.mp hfound with hold | hnew
    · exact h.late entry hentry found hold hofTurn hdispute
    · rw [List.mem_singleton.mp hnew] at hofTurn hdispute ⊢
      obtain ⟨dispute, hfoundDispute, hbefore⟩ := may hofTurn
      -- The reply's brief is one of the dispute's, and the evaluation is later than that.
      have hsame : some entry.1.disputeId = some dispute := hdispute.symm.trans hfoundDispute
      have hevent : entry.1 ∈ world.store.events.filter fun event => event.kind.isBrief := by
        rw [← h.recorded]
        exact List.mem_map_of_mem hentry
      obtain ⟨hmem, hkind⟩ := List.mem_filter.mp hevent
      exact hbefore entry.1 hmem (Option.some.inj hsame) hkind
  · exact h.once

end Replies.Inv

/-! ## Steps -/

/-- The kinds a call logs hold no brief, unless it appends one. -/
theorem briefs_performCall {β : Type} {call : Call β} (thread : Thread Task) (oracle : Oracle)
    (world : World) (hcall : ∀ kind, call.logs kind = true → kind.isBrief = false) :
    ((performCall deployment thread call oracle world).2.store.events.filter fun event =>
      event.kind.isBrief) = world.store.events.filter fun event => event.kind.isBrief :=
  (performCall_logs deployment thread call oracle world).filter_eq fun event hkind =>
    hcall event.kind hkind

/-- Sessions and their disputes stay. -/
theorem disputes_of_follows {world later : World} (hinv : world.core.Inv) (hlater : later.core.Inv)
    (hfollows : world.Follows later) (id : SessionId) (h : (world.store.session id).isSome) :
    (later.store.session id).isSome ∧ later.store.disputeOf id = world.store.disputeOf id := by
  have hsame := disputeOf_eq hinv hlater hfollows h
  refine ⟨?_, hsame⟩
  rw [← Option.isSome_map (f := Session.disputeId)] at h ⊢
  rw [Store.disputeOf, Store.disputeOf] at hsame
  rw [hsame]
  exact h

namespace Replies.Inv

variable {world : World} {replies : Replies}

/-- What a call leaves of the others' briefs under way. -/
theorem mem_of_others {thread : Nat} {entry : Nat × DisputeId × Nat}
    (h : entry ∈ replies.sending.filter fun entry => entry.1 != thread) :
    entry ∈ replies.sending := List.mem_of_mem_filter h

/-- A call that neither judges nor appends. -/
theorem quiet {β : Type} {call : Call β} {thread : Thread Task} {oracle : Oracle}
    (h : Replies.Inv deployment world replies) (hinv : world.core.Inv)
    (hneeds : Needs thread call world) (hjudges : call.judges = false)
    (hlogs : ∀ kind, call.logs kind = true → kind.isBrief = false) :
    Replies.Inv deployment (performCall deployment thread call oracle world).2 replies :=
  have hstepped := performCall_stepped deployment thread call oracle hinv hneeds
  h.keep (performCall_evaluations deployment thread call hjudges oracle world)
    (briefs_performCall thread oracle world hlogs)
    (disputes_of_follows hinv hstepped.inv hstepped.follows)

/-- Appending an event. -/
theorem append {new : NewEvent} {thread : Thread Task} {oracle : Oracle}
    (h : Replies.Inv deployment world replies) (hinv : world.core.Inv)
    (hneeds : Needs thread (.append new) world)
    (hcond : (inOrder deployment).call thread (.append new) oracle (world, replies) = true) :
    Replies.Inv deployment (performCall deployment thread (.append new) oracle world).2
      (replies.note thread.number (.append new) oracle world) := by
  cases hbrief : new.kind.isBrief with
  | false =>
    have hnote : replies.note thread.number (.append new) oracle world = replies := by
      simp only [Replies.note, hbrief, Bool.false_eq_true, if_false]
    rw [hnote]
    refine h.quiet hinv hneeds rfl fun kind hkind => ?_
    rw [show kind = new.kind from eq_of_beq hkind]
    exact hbrief
  | true =>
    simp only [inOrder, hbrief, Bool.not_true, Bool.false_or, Bool.or_eq_true] at hcond
    simp only [Replies.note, hbrief, if_true, performCall, World.underLock, World.orFail]
    cases hfails : oracle.fails with
    | some failure => exact h.forget fun _ => mem_of_others
    | none =>
      rw [hfails] at hcond
      exact h.brief thread.number hbrief (hcond.resolve_left Bool.false_ne_true)
        fun _ => mem_of_others

/-- Recording an evaluation. -/
theorem insertEvaluation {new : NewEvaluation} {thread : Thread Task} {oracle : Oracle}
    (h : Replies.Inv deployment world replies)
    (hcond : (inOrder deployment).call thread (.insertEvaluation new) oracle (world, replies) =
      true) :
    Replies.Inv deployment (performCall deployment thread (.insertEvaluation new) oracle world).2
      replies := by
  simp only [performCall, World.underLock, World.orFail]
  cases hfails : oracle.fails with
  | some failure => exact h
  | none =>
    simp only [inOrder, hfails, Option.isSome_none, Bool.false_or] at hcond
    refine h.judge (fun hbrief => ?_) fun hturn => ?_
    · rw [if_pos hbrief] at hcond
      exact hcond
    · rw [if_neg hturn] at hcond
      exact hcond

/-- A solver is told. -/
theorem sendDm {solver : Nat} {dispute : DisputeId} {notification : String} {thread : Thread Task}
    {oracle : Oracle} (h : Replies.Inv deployment world replies) (hinv : world.core.Inv) :
    Replies.Inv deployment
      (performCall deployment thread (.sendDm solver dispute notification) oracle world).2
      (replies.note thread.number (.sendDm solver dispute notification) oracle world) := by
  have hnote : Replies.Inv deployment world
      (replies.note thread.number (.sendDm solver dispute notification) oracle world) := by
    simp only [Replies.note]
    split
    · exact h.send _ _ fun _ => mem_of_others
    · exact h
  have hneeds : Needs thread (.sendDm solver dispute notification) world := trivial
  exact hnote.quiet hinv hneeds rfl nofun

/-- One call keeps the invariant. -/
theorem call {β : Type} {call : Call β} {thread : Thread Task} {oracle : Oracle}
    (h : Replies.Inv deployment world replies) (hinv : world.core.Inv)
    (hneeds : Needs thread call world)
    (hcond : (inOrder deployment).call thread call oracle (world, replies) = true) :
    Replies.Inv deployment (performCall deployment thread call oracle world).2
      (replies.note thread.number call oracle world) := by
  have silent : ∀ {kind : EventKind}, (false = true) → kind.isBrief = false := fun h => by cases h
  cases call with
  | append new => exact h.append hinv hneeds hcond
  | insertEvaluation new => exact h.insertEvaluation hcond
  | sendDm solver dispute notification => exact h.sendDm hinv
  | activate dispute id now =>
    exact h.quiet hinv hneeds rfl fun kind hkind => by cases kind <;> first | rfl | cases hkind
  | abandon dispute id reason now =>
    exact h.quiet hinv hneeds rfl fun kind hkind => by cases kind <;> first | rfl | cases hkind
  | handOff session reason now =>
    exact h.quiet hinv hneeds rfl fun kind hkind => by cases kind <;> first | rfl | cases hkind
  | startGuiding session path now =>
    exact h.quiet hinv hneeds rfl fun kind hkind => by cases kind <;> first | rfl | cases hkind
  | recordHold session now =>
    exact h.quiet hinv hneeds rfl fun kind hkind => by cases kind <;> first | rfl | cases hkind
  | record dispute now =>
    exact h.quiet hinv hneeds rfl fun kind hkind => by cases kind <;> first | rfl | cases hkind
  | _ => exact h.quiet hinv hneeds rfl fun _ hkind => silent hkind

/-- A reply changes what is recorded of replies only. -/
theorem hear (h : Replies.Inv deployment world replies) (reply : Reply) :
    Replies.Inv deployment world (replies.hear deployment reply world) := by
  unfold Replies.hear
  split
  · exact { h with once := nodup_recordFeedback h.once }
  · exact h

end Replies.Inv

/-! ## Runs -/

/-- The first start, with nothing replied. -/
def repliesStart (clock : Int) : Conf Call String Task (World × Replies) :=
  ⟨(World.start clock, .empty), []⟩

/-- The contract of Serbero's tasks, beside the desk. -/
def repliesContract (deployment : Deployment) :
    Contract (feedbackDesk deployment).beside (inOrder deployment) :=
  (contract deployment Condition.always).beside (feedbackDesk deployment)
    (inOrder deployment).within_always

/-- One move keeps the invariant of the desk. -/
theorem Replies.Inv.moves {world world' : World × Replies}
    (h : Replies.Inv deployment world.1 world.2)
    (hmove : (repliesContract deployment).Moves world world') :
    Replies.Inv deployment world'.1 world'.2 := by
  cases hmove with
  | call hinv hpre hcond _ => exact h.call hinv hpre hcond
  | launch hinv _ hlaunch =>
    obtain ⟨halone, hnotes⟩ := (feedbackDesk deployment).launch_cases hlaunch
    have hstepped := launch_stepped hinv halone
    have hstore := (launch_traffic halone).1
    have hkept : Replies.Inv deployment world'.1 world.2 := h.keep (by rw [hstore])
      (by rw [hstore]) (disputes_of_follows hinv hstepped.inv hstepped.follows)
    rw [hnotes]
    exact hkept
  | happen hinv _ hhappen =>
    rcases (feedbackDesk deployment).happen_cases hhappen with
      ⟨happening, -, halone, hnotes⟩ | ⟨reply, -, hsame, hnotes⟩
    · have hstepped := happen_stepped hinv halone
      have hkept : Replies.Inv deployment world'.1 world.2 := h.keep (happen_evaluations halone)
        (by rw [(happen_traffic halone).1])
        (disputes_of_follows hinv hstepped.inv hstepped.follows)
      rw [hnotes]
      exact hkept
    · rw [hsame, ← Option.some.inj hnotes]
      exact h.hear reply
  | @restart oracle _ hinv _ =>
    obtain ⟨hlater, hfollows⟩ := @restart_follows oracle _ hinv
    have hkept : Replies.Inv deployment (restart oracle world.1) world.2 :=
      h.keep rfl rfl (disputes_of_follows hinv hlater hfollows)
    exact hkept.forget fun _ hmem => absurd hmem List.not_mem_nil

/-- Every state a run reaches keeps the invariant of the desk. -/
theorem replies_of_run {clock : Int} {conf : Conf Call String Task (World × Replies)}
    (hrun : (feedbackDesk deployment).beside.RunsTo (inOrder deployment) (repliesStart clock)
      conf) :
    conf.world.1.core.Inv ∧ Replies.Inv deployment conf.world.1 conf.world.2 := by
  have hstart : (repliesContract deployment).Kept (repliesStart clock) :=
    Contract.kept_of_start (inv_start clock)
  have hempty : Replies.Inv deployment (World.start clock) .empty := by
    constructor <;> simp [World.start, Store.empty, Replies.empty]
  have hlaunches : (contract deployment Condition.always).Launches :=
    launches deployment Condition.always
  obtain ⟨hkept, hmoves⟩ := hstart.run (hlaunches.beside (inOrder deployment).within_always) hrun
  exact ⟨hkept.1, Contract.Moves.run_induction
    (fun world => Replies.Inv deployment world.1 world.2) (fun h hmove => h.moves hmove) hmoves
    hempty⟩

/-! ## The law -/

/-- The newest brief of all is the newest of its own dispute. -/
theorem Store.lastBriefTo_of_lastNotificationTo {store : Store} {solver : Nat} {bound : Int}
    {brief : Event} (h : store.lastNotificationTo solver "brief" bound = some brief) :
    store.lastBriefTo solver brief.disputeId bound = some brief := by
  obtain ⟨htells, before, after, hsplit, hnone⟩ := List.find?_eq_some_iff_append.mp h
  rw [Store.lastBriefTo, Store.listEvents, ← List.filter_reverse, List.find?_filter, hsplit,
    List.find?_append, List.find?_eq_none.mpr, Option.none_or]
  · simp [htells]
  · intro event hevent hboth
    have hnot := hnone event hevent
    rw [Bool.not_eq_true'] at hnot
    rw [decide_eq_true_eq, hnot] at hboth
    exact Bool.false_ne_true hboth.2

/-- The evaluations that existed by their times are those that were stored. -/
theorem Replies.Inv.judgedFor {world : World} {replies : Replies}
    (h : Replies.Inv deployment world replies) {brief : Event} {stored : Nat}
    (hsent : (brief, stored) ∈ replies.briefs) {id : SessionId}
    (hdispute : world.store.disputeOf id = some brief.disputeId) {question : String}
    (hknown : knownQuestion question = true) :
    world.store.judgedFor id question brief.createdAt =
      (judgments deployment (world.store.evaluations.take stored) id question).getLast? := by
  rw [Store.judgedFor, Store.listEvaluations, ← List.getLast?_filter, List.filter_filter, judgments]
  congr 1
  conv_lhs => rw [← List.take_append_drop stored world.store.evaluations]
  rw [List.filter_append]
  have hdropped : (world.store.evaluations.drop stored).filter (fun evaluation =>
      (decide (evaluation.createdAt ≤ brief.createdAt) && evaluation.answers.contains question) &&
        evaluation.sessionId == id) = [] := by
    rw [List.filter_eq_nil_iff]
    intro evaluation hmem hpicked
    simp only [Bool.and_eq_true, decide_eq_true_eq, beq_iff_eq] at hpicked
    obtain ⟨⟨hle, hcontains⟩, hid⟩ := hpicked
    cases hturn : evaluation.ofTurn deployment with
    | true =>
      -- A turn judged since the brief went out began after it.
      have hafter := h.late _ hsent evaluation hmem hturn (by rw [hid, hdispute])
      exact absurd hle (by simpa using hafter)
    | false =>
      have hoff := h.offTurn evaluation (List.mem_of_mem_drop hmem) hturn
      rw [Answers.offTurn.contains_eq_false hoff hknown] at hcontains
      cases hcontains
  rw [hdropped, List.append_nil]
  refine List.filter_congr fun evaluation hmem => ?_
  by_cases hid : evaluation.sessionId = id
  · rw [hid]
    cases hturn : evaluation.ofTurn deployment with
    | true =>
      have hbefore : evaluation.createdAt ≤ brief.createdAt :=
        (h.early _ hsent).2 evaluation hmem hturn (by rw [hid, hdispute])
      simp [hbefore]
    | false =>
      have hoff := h.offTurn evaluation (List.mem_of_mem_take hmem) hturn
      simp [Answers.offTurn.contains_eq_false hoff hknown]
  · have hother : (evaluation.sessionId == id) = false := beq_eq_false_iff_ne.mpr hid
    simp only [hother, Bool.and_false, Bool.false_and]

/-- **Feedback is linked to a judgment the solver saw.** While the briefs and the turns of each
dispute are stamped in the order in which they are made, every reply that is recorded is linked to
the newest turn evaluation that was stored when its brief went out, and each message is recorded
once. -/
theorem feedback_links {clock : Int} {conf : Conf Call String Task (World × Replies)}
    (hrun : (feedbackDesk deployment).beside.RunsTo (inOrder deployment) (repliesStart clock)
      conf) :
    FeedbackLaw deployment conf.world.1 conf.world.2 := by
  obtain ⟨hinv, hreplies⟩ := replies_of_run hrun
  refine ⟨fun reply recorded hrecorded => ?_, hreplies.once⟩
  have hcases := @recordFeedback_cases conf.world.1.store conf.world.2.log reply.solver
    reply.feedback reply.source conf.world.1.clock
  rcases hcases with hsame | ⟨id, session, evaluation, hlink, -, row, -, hlater⟩
  · rw [hsame] at hrecorded
    cases hrecorded
  rw [hlater] at hrecorded
  cases hrecorded
  obtain ⟨hdispute, brief, hbrief, hlatest, hjudged⟩ := Store.feedbackLink_eq_some hlink
  -- The brief is the newest one this solver was told of.
  have hfound := List.mem_of_find?_eq_some hbrief
  rw [List.mem_reverse] at hfound
  obtain ⟨hevent, hid⟩ := List.mem_filter.mp hfound
  rw [beq_iff_eq] at hid
  have htells := List.find?_some hbrief
  rw [Event.tells, Bool.and_eq_true, beq_iff_eq] at htells
  have hkind : brief.kind.isBrief = true := by
    rw [htells.1]
    rfl
  have hsession : conf.world.1.store.disputeOf session.sessionId = some brief.disputeId := by
    obtain ⟨hmem, hof⟩ := mem_of_latestForDispute hlatest
    rw [Store.disputeOf, hinv.session_eq, hinv.getElem?_of_mem hmem, Option.map_some, hof, hid]
  refine ⟨brief, session, evaluation, ?_, ?_, ?_, ?_, hlatest, ?_, rfl⟩
  · intro named hnamed
    rw [Store.feedbackDispute, hnamed] at hdispute
    exact (Option.some.inj hdispute).symm
  · intro hunnamed
    rw [Store.feedbackDispute, hunnamed] at hdispute
    -- A reply to nothing is taken for the last notification, which is then that brief.
    obtain ⟨newest, hnewest, hnewestId⟩ := Option.map_eq_some_iff.mp hdispute
    have hown := Store.lastBriefTo_of_lastNotificationTo hnewest
    rw [hnewestId, hbrief] at hown
    rw [List.getLast?_filter, Option.some.inj hown]
    exact hnewest
  · rw [List.getLast?_filter]
    exact hbrief
  · have hmem : brief ∈ conf.world.2.briefs.map Prod.fst := by
      rw [hreplies.recorded]
      exact List.mem_filter.mpr ⟨hevent, hkind⟩
    obtain ⟨entry, hentry, rfl⟩ := List.mem_map.mp hmem
    exact ⟨entry.2, hentry⟩
  -- The evaluations before the brief's send are those that are linked.
  · intro stored hsent
    rw [← hreplies.judgedFor hsent hsession reply.feedback.known]
    exact hjudged

/-! ## A brief that overtakes a turn -/

/-- The seller says the fiat arrived. -/
def arrivedAnswers : Answers :=
  .ofList [("seller_receipt", Answer.choice (.ofList [("says_received", (1 : ℚ))]))]

/-- A party of the first session writes. -/
def writes (number : Nat) (party : Party) (createdAt : Int) : Choice Task Oracle Happening :=
  .happen (.receive ⟨0, party, "hello", 0, number, createdAt, false⟩)

/-- A turn guides the parties of the first session, and the solver does not get its brief. Later a
pass of the timers comes to send the brief again. -/
def briefAgainSteps : List (Choice Task Oracle Happening) :=
  openedSteps ++ [.happen (.clock 1010), writes 1 .seller 1010, .happen .touch,
    .launch (.turn 0) .quiet] ++ quietly 3 4 ++
    [.run 3 { Oracle.quiet with answers := arrivedAnswers }] ++ quietly 3 12 ++
    [.run 3 { Oracle.quiet with fails := some "no relay" }] ++ quietly 3 14 ++
    [.happen (.clock 1200), .launch .tick .quiet] ++ quietly 4 10

/-- The solver gets the brief, with nothing judged meanwhile. -/
def briefedSteps : List (Choice Task Oracle Happening) := briefAgainSteps ++ quietly 4 3

/-- A turn begins before the brief goes out, and is judged after it. -/
def overtakenSteps : List (Choice Task Oracle Happening) :=
  briefAgainSteps ++ [writes 2 .buyer 1195, .happen .touch, .launch (.turn 0) .quiet] ++
    quietly 5 7 ++ [.happen (.clock 1210)] ++ quietly 4 3 ++
    [.run 5 { Oracle.quiet with answers := arrivedAnswers }] ++ quietly 5 5

/-- The solver replies to the brief. -/
def wrongReceipt : Reply := ⟨1, ⟨"seller_receipt", by decide, none⟩, ⟨7, 1250⟩⟩

/-- Where the solver has the brief, and nothing was judged meanwhile. -/
def briefedConf : Conf Call String Task (World × Replies) :=
  (feedbackDesk smallDeployment).beside.after (inOrder smallDeployment) (repliesStart 1000)
    (briefedSteps.map Choice.beside)

/-- Where a turn was judged while the brief went out. -/
def overtakenConf : Conf Call String Task (World × Replies) :=
  (feedbackDesk smallDeployment).beside.after Condition.always (repliesStart 1000)
    (overtakenSteps.map Choice.beside)

/-- The solver's reply to the brief is linked to its evaluation. -/
theorem feedback_links_briefed :
    (recordFeedback briefedConf.world.1.store briefedConf.world.2.log wrongReceipt.solver
        wrongReceipt.feedback wrongReceipt.source briefedConf.world.1.clock).1 = some ⟨1, 1⟩ ∧
      FeedbackLaw smallDeployment briefedConf.world.1 briefedConf.world.2 :=
  ⟨by decide +kernel,
    feedback_links ((feedbackDesk smallDeployment).beside.runsTo_after (by decide +kernel))⟩

/-- The judge may take its time over a turn while a brief is sent again: a reply to the brief is then
linked to the evaluation of that turn, which was not there when the brief went out. -/
theorem not_feedback_links :
    ¬∀ (deployment : Deployment) (clock : Int) (conf : Conf Call String Task (World × Replies)),
      (feedbackDesk deployment).beside.RunsTo Condition.always (repliesStart clock) conf →
        FeedbackLaw deployment conf.world.1 conf.world.2 := by
  intro hclaim
  have hrun : (feedbackDesk smallDeployment).beside.RunsTo Condition.always (repliesStart 1000)
      overtakenConf := (feedbackDesk smallDeployment).beside.runsTo_after (by decide +kernel)
  have hlaw := hclaim smallDeployment 1000 overtakenConf hrun
  obtain ⟨brief, session, evaluation, hlinked⟩ :=
    hlaw.links wrongReceipt ⟨1, 3⟩ (by decide +kernel)
  obtain ⟨stored, hsent⟩ := hlinked.sent
  have htwo : ∀ entry ∈ overtakenConf.world.2.briefs, entry.2 = 2 := by decide +kernel
  have hsession : (overtakenConf.world.1.store.latestForDispute 1).map Session.sessionId =
      some 0 := by decide +kernel
  have hfirst : ((judgments smallDeployment (overtakenConf.world.1.store.evaluations.take 2) 0
      "seller_receipt").getLast?).map Evaluation.id = some 1 := by decide +kernel
  have hlatest : overtakenConf.world.1.store.latestForDispute 1 = some session := hlinked.latest
  have hjudged := hlinked.judged stored hsent
  have hstored : stored = 2 := htwo _ hsent
  rw [hstored] at hjudged
  rw [hlatest, Option.map_some, Option.some.injEq] at hsession
  rw [hsession] at hjudged
  have hid : evaluation.id = 3 := hlinked.evaluation
  rw [show wrongReceipt.feedback.question = "seller_receipt" from rfl] at hjudged
  rw [hjudged, Option.map_some, hid] at hfirst
  exact absurd hfirst (by decide)

end Serbero
