import Serbero.Judge.Brief
import Serbero.Store.Tables

/-! # Solver feedback

A solver replies to a brief with the question that was judged wrong, and Serbero records the reply
against the evaluation the brief was built from. The recorded replies are kept apart from the other
events here: nothing else reads them. -/

namespace Serbero

/-! ## The turn questions -/

/-- The questions about the whole transcript. -/
def caseFacts : List String :=
  ["buyer_payment", "buyer_details", "seller_receipt", "seller_checked", "claims_conflict",
    "fraud_signal", "dispute_topic"]

/-- The questions about one party's latest messages; the last one while guiding. -/
def perParty : List String := ["message_kind", "language", "wants_human", "rejects_path"]

/-- Whether a turn asks the question. Turn question ids do not depend on the enabled languages. -/
def knownQuestion (id : String) : Bool :=
  caseFacts.contains id ||
    Party.both.any fun party => perParty.any fun suffix => id == party.name ++ "_" ++ suffix

/-- The brief asks nothing that a turn asks. -/
theorem knownQuestion_quote {spec : Quote} (h : spec ∈ quotes) : knownQuestion spec.id = false := by
  simp only [quotes, List.mem_cons, List.not_mem_nil, or_false] at h
  rcases h with rfl | rfl | rfl | rfl <;> decide

/-- The balance of the evidence is no question that a solver judges. -/
theorem knownQuestion_evidenceBalance : knownQuestion evidenceBalanceId = false := by decide

/-! ## Replies -/

/-- What a solver said was wrong: a turn question, and the dispute the solver named, if any. -/
structure Feedback where
  question : String
  known : knownQuestion question = true
  disputeId : Option DisputeId

/-- The solver's message a feedback came in: the same one may be delivered several times. -/
structure Source where
  id : Nat
  /-- When the solver wrote it, by the solver's clock. -/
  writtenAt : Int
  deriving DecidableEq, Repr

/-- Where a feedback was recorded. -/
structure Recorded where
  disputeId : DisputeId
  evaluationId : Int
  deriving DecidableEq, Repr

/-- A recorded feedback. -/
structure SolverFeedback where
  disputeId : DisputeId
  sessionId : SessionId
  solver : Nat
  question : String
  evaluationId : Int
  source : Nat
  createdAt : Int
  deriving DecidableEq, Repr

/-- Slack for the solver's clock when a reply is matched to the brief before it. -/
def clockSkewSecs : Int := 120

/-- The newest time at which what a reply answers may have been sent. -/
def Source.answersUntil (source : Source) : Int := min i64Max (source.writtenAt + clockSkewSecs)

/-- The event says that a solver got a notification of this kind, no later than `bound`. -/
def Event.tells (event : Event) (solver : Nat) (notification : String) (bound : Int) : Bool :=
  event.kind == .notificationSent solver notification && decide (event.createdAt ≤ bound)

namespace Store

variable (store : Store)

/-- The newest notification of one kind that a solver got, across disputes. -/
def lastNotificationTo (solver : Nat) (notification : String) (bound : Int) : Option Event :=
  store.events.reverse.find? fun event => event.tells solver notification bound

/-- The newest brief about a dispute that a solver got. -/
def lastBriefTo (solver : Nat) (id : DisputeId) (bound : Int) : Option Event :=
  (store.listEvents id).reverse.find? fun event => event.tells solver "brief" bound

/-- The dispute a feedback is about: the one it names, or that of the newest brief the solver got. -/
def feedbackDispute (solver : Nat) (feedback : Feedback) (bound : Int) : Option DisputeId :=
  match feedback.disputeId with
  | some id => some id
  | none => (store.lastNotificationTo solver "brief" bound).map Event.disputeId

/-- The session's newest evaluation that answers the question and existed when the brief was sent,
by their times. -/
def judgedFor (id : SessionId) (question : String) (briefedAt : Int) : Option Evaluation :=
  (store.listEvaluations id).reverse.find? fun evaluation =>
    decide (evaluation.createdAt ≤ briefedAt) && evaluation.answers.contains question

/-- What a feedback is about: the dispute, its latest session and the evaluation. -/
def feedbackLink (solver : Nat) (feedback : Feedback) (bound : Int) :
    Option (DisputeId × Session × Evaluation) := do
  let id ← store.feedbackDispute solver feedback bound
  -- A solver who never got a brief for it made a typo or a guess.
  let brief ← store.lastBriefTo solver id bound
  let session ← store.latestForDispute id
  let evaluation ← store.judgedFor session.sessionId feedback.question brief.createdAt
  return (id, session, evaluation)

end Store

/-- Links a feedback to the evaluation it is about and records it; nothing when nothing matches or
the message was already recorded. -/
def recordFeedback (store : Store) (log : List SolverFeedback) (solver : Nat) (feedback : Feedback)
    (source : Source) (now : Int) : Option Recorded × List SolverFeedback :=
  if log.any fun row => row.source == source.id then (none, log)
  else
    match store.feedbackLink solver feedback source.answersUntil with
    | none => (none, log)
    | some (id, session, evaluation) =>
      (some ⟨id, evaluation.id⟩, log ++
        [{ disputeId := id
           sessionId := session.sessionId
           solver := solver
           question := feedback.question
           evaluationId := evaluation.id
           source := source.id
           createdAt := now }])

/-! ## What is recorded -/

/-- Answers that answer no turn question, as those of a brief. -/
def Answers.offTurn (answers : Answers) : Bool := !answers.keys.any knownQuestion

/-- The judge's adapter lets only answers to the brief questions pass. -/
theorem offTurn_of_checkAnswers {version : String} {state : JudgeState} {answers : Answers}
    (checked : checkAnswers (briefQuestions version state) answers = .ok ()) :
    answers.offTurn = true := by
  rw [Answers.offTurn, Bool.not_eq_true', List.any_eq_false]
  intro id hid hknown
  rw [Std.TreeMap.mem_keys, Std.TreeMap.mem_iff_isSome_getElem?] at hid
  obtain ⟨answer, hanswer⟩ := Option.isSome_iff_exists.mp hid
  obtain ⟨question, hquestion, -⟩ := exists_question_of_checkAnswers checked hanswer
  rcases briefQuestions_getElem? hquestion with ⟨spec, hspec, rfl, -⟩ | rfl
  · rw [knownQuestion_quote hspec] at hknown
    cases hknown
  · rw [knownQuestion_evidenceBalance] at hknown
    cases hknown

/-- Answers off turn answer no turn question. -/
theorem Answers.offTurn.contains_eq_false {answers : Answers} (h : answers.offTurn = true)
    {question : String} (hknown : knownQuestion question = true) :
    answers.contains question = false := by
  rw [Answers.offTurn, Bool.not_eq_true', List.any_eq_false] at h
  by_contra hcontains
  exact h question (Std.TreeMap.mem_keys.mpr (Std.TreeMap.mem_iff_contains.mpr
    (by simpa using hcontains))) hknown

/-- A link, taken apart. -/
theorem Store.feedbackLink_eq_some {store : Store} {solver : Nat} {feedback : Feedback} {bound : Int}
    {id : DisputeId} {session : Session} {evaluation : Evaluation}
    (h : store.feedbackLink solver feedback bound = some (id, session, evaluation)) :
    store.feedbackDispute solver feedback bound = some id ∧
      ∃ brief, store.lastBriefTo solver id bound = some brief ∧
        store.latestForDispute id = some session ∧
          store.judgedFor session.sessionId feedback.question brief.createdAt = some evaluation := by
  obtain ⟨found, hdispute, hrest⟩ := Option.bind_eq_some_iff.mp h
  obtain ⟨brief, hbrief, hrest⟩ := Option.bind_eq_some_iff.mp hrest
  obtain ⟨latest, hlatest, hrest⟩ := Option.bind_eq_some_iff.mp hrest
  obtain ⟨judged, hjudged, hsame⟩ := Option.bind_eq_some_iff.mp hrest
  obtain ⟨rfl, rfl, rfl⟩ : found = id ∧ latest = session ∧ judged = evaluation := by
    simpa using hsame
  exact ⟨hdispute, brief, hbrief, hlatest, hjudged⟩

variable {store : Store} {log : List SolverFeedback} {solver : Nat} {feedback : Feedback}
  {source : Source} {now : Int}

/-- What recording a feedback does: nothing, or one more row for a message that had none. -/
theorem recordFeedback_cases :
    recordFeedback store log solver feedback source now = (none, log) ∨
    ∃ id session evaluation,
      store.feedbackLink solver feedback source.answersUntil = some (id, session, evaluation) ∧
        source.id ∉ log.map SolverFeedback.source ∧
          ∃ row, row.source = source.id ∧
            recordFeedback store log solver feedback source now =
              (some ⟨id, evaluation.id⟩, log ++ [row]) := by
  unfold recordFeedback
  split
  · exact Or.inl rfl
  next hnew =>
  split
  · exact Or.inl rfl
  · next id session evaluation hlink =>
    refine Or.inr ⟨id, session, evaluation, hlink, fun hmem => hnew ?_, _, rfl, rfl⟩
    obtain ⟨row, hrow, hsource⟩ := List.mem_map.mp hmem
    exact List.any_eq_true.mpr ⟨row, hrow, beq_iff_eq.mpr hsource⟩

/-- Each message is recorded once. -/
theorem nodup_recordFeedback (h : (log.map SolverFeedback.source).Nodup) :
    ((recordFeedback store log solver feedback source now).2.map SolverFeedback.source).Nodup := by
  have hcases := @recordFeedback_cases store log solver feedback source now
  rcases hcases with hsame | ⟨id, session, evaluation, -, hnew, row, hsource, hlater⟩
  · rw [hsame]
    exact h
  · rw [hlater, List.map_append, List.nodup_append]
    refine ⟨h, List.nodup_singleton _, ?_⟩
    rintro found hfound other hother rfl
    rw [List.map_singleton, List.mem_singleton, hsource] at hother
    exact hnew (hother ▸ hfound)

end Serbero
