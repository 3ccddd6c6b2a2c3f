import Mathlib.Data.List.AList
import Serbero.Judge.TypeSafe

/-! # The `recorded` provider

A judge that replays the answers another judge gave before. A request is looked up by its state
together with the ids of the questions asked; one that was not recorded is refused, never guessed. -/

namespace Serbero

/-! ## Judges -/

/-- A JSON value. -/
inductive Json
  | null
  | bool (value : Bool)
  | number (digits : String)
  | string (text : String)
  | array (items : List Json)
  | object (fields : List (String × Json))

/-- A judge: its id, and what the request of each number comes to. Its answers fit the questions. -/
structure Judge where
  id : String
  evaluate : Nat → Json → QuestionSet → Except JudgeError JudgedAnswers
  fits : ∀ {number : Nat} {state : Json} {questions : QuestionSet} {judged : JudgedAnswers},
    evaluate number state questions = .ok judged → checkAnswers questions judged.answers = .ok ()

/-- The answers of a request that was tried again fit the questions. -/
theorem TypeSafeJudge.fits_of_evaluate {judge : TypeSafeJudge}
    {parse : String → Except String WireResponse} {questions : QuestionSet}
    {outcomes : Nat → HttpOutcome} {judged : JudgedAnswers}
    (h : (judge.evaluate parse questions outcomes).2 = .ok judged) :
    checkAnswers questions judged.answers = .ok () := by
  have hmade := Retry.run_made (fun failure => failure.error.isRetryable)
    (fun index => judge.evaluateOnce parse questions (outcomes index)) judge.retry.maxRetries 0
  unfold TypeSafeJudge.evaluate RetryPolicy.withRetries at h
  cases hlast : (Retry.run (fun failure : Failure => failure.error.isRetryable)
    (fun index => judge.evaluateOnce parse questions (outcomes index))
      judge.retry.maxRetries 0).2 with
  | error failure => simp [hlast, Except.mapError] at h
  | ok found =>
    simp only [hlast, Except.mapError, Except.ok.injEq] at h
    obtain ⟨wire, hanswers⟩ := TypeSafeJudge.answers_of_evaluateOnce (hmade.last.trans hlast)
    rw [← h]
    exact hanswers.fits

/-- The `typesafe` provider as a judge; `outcomes` is what its requests meet. -/
def TypeSafeJudge.toJudge (judge : TypeSafeJudge) (id : String)
    (parse : String → Except String WireResponse) (outcomes : Nat → Nat → HttpOutcome) : Judge where
  id := id
  evaluate number _ questions := (judge.evaluate parse questions (outcomes number)).2
  fits := TypeSafeJudge.fits_of_evaluate

/-- Checked answers are to the very questions of the set. -/
theorem keys_of_checkAnswers {questions : QuestionSet} {answers : Answers}
    (h : checkAnswers questions answers = .ok ()) : answers.keys = questions.questions.keys := by
  have hmem : ∀ id, id ∈ answers.keys ↔ id ∈ questions.questions.keys := by
    intro id
    rw [Std.TreeMap.mem_keys, Std.TreeMap.mem_keys, Std.TreeMap.mem_iff_isSome_getElem?,
      Std.TreeMap.mem_iff_isSome_getElem?, Option.isSome_iff_exists, Option.isSome_iff_exists]
    constructor
    · rintro ⟨answer, hanswer⟩
      obtain ⟨question, hquestion, -⟩ := exists_question_of_checkAnswers h hanswer
      exact ⟨question, hquestion⟩
    · rintro ⟨question, hquestion⟩
      exact exists_answer_of_checkAnswers h hquestion
  have hperm : answers.keys.Perm questions.questions.keys :=
    (List.perm_ext_iff_of_nodup Std.TreeMap.nodup_keys Std.TreeMap.nodup_keys).mpr hmem
  have hsame : ∀ a b : String, a ∈ answers.keys → b ∈ questions.questions.keys →
      compare a b = .lt → compare b a = .lt → a = b := by
    intro a b _ _ hab hba
    have hgt := Std.OrientedCmp.gt_of_lt hab
    rw [hba] at hgt
    cases hgt
  exact List.Perm.eq_of_pairwise hsame Std.TreeMap.ordered_keys Std.TreeMap.ordered_keys hperm

/-! ## Recordings -/

/-- The answers to one case, with the exact state that was sent. -/
structure RecordedCase where
  caseId : String
  state : Json
  answers : Answers

/-- Answers recorded from one judge on one question set. -/
structure Recording where
  /-- The judge that gave the answers. -/
  judge : String
  questionSet : String
  cases : List RecordedCase

/-- The sorted question ids and the state's text, kept apart, so that no id can be confused with a
separator. -/
abbrev RequestKey := List String × String

/-- What a request is looked up by; `text` writes a state down. -/
def requestKey (text : Json → String) (state : Json) (questionIds : List String) : RequestKey :=
  (questionIds, text state)

/-- The request a recorded case answers. -/
def RecordedCase.key (text : Json → String) (recorded : RecordedCase) : RequestKey :=
  requestKey text recorded.state recorded.answers.keys

/-- A judge that replays a recording. -/
structure RecordedJudge where
  id : String
  questionSet : String
  byRequest : AList fun _ : RequestKey => Answers

namespace RecordedJudge

/-- The recorded cases by their requests; the first that repeats a request is refused. -/
def index (text : Json → String) :
    (AList fun _ : RequestKey => Answers) → List RecordedCase →
      Except JudgeError (AList fun _ : RequestKey => Answers)
  | byRequest, [] => .ok byRequest
  | byRequest, recorded :: rest =>
    if recorded.key text ∈ byRequest then
      .error (.invalidRequest s!"case {recorded.caseId} repeats the request of an earlier case")
    else index text (byRequest.insert (recorded.key text) recorded.answers) rest

/-- The judge of a recording. Its id is never that of a live judge. -/
def new (text : Json → String) (recording : Recording) : Except JudgeError RecordedJudge :=
  (index text ∅ recording.cases).map fun byRequest =>
    { id := s!"recorded/{recording.judge}"
      questionSet := recording.questionSet
      byRequest := byRequest }

/-- The answers recorded for a request. -/
def answer (judge : RecordedJudge) (text : Json → String) (state : Json) (questions : QuestionSet) :
    Except JudgeError JudgedAnswers :=
  if questions.version ≠ judge.questionSet then
    .error (.invalidRequest
      s!"recorded on question set {judge.questionSet}, asked {questions.version}")
  else
    match judge.byRequest.lookup (requestKey text state questions.questions.keys) with
    | none => .error (.invalidRequest "no recorded answers for this request")
    | some answers =>
      match checkAnswers questions answers with
      | .error why => .error (.malformed (.answers why))
      | .ok () => .ok ⟨answers, none⟩

variable {judge : RecordedJudge} {text : Json → String} {state : Json} {questions : QuestionSet}
  {judged : JudgedAnswers}

/-- What a recorded judge answers was looked up, for the question set it was recorded on. -/
theorem answer_eq_ok_iff :
    judge.answer text state questions = .ok judged ↔
      questions.version = judge.questionSet ∧
      judge.byRequest.lookup (requestKey text state questions.questions.keys) =
        some judged.answers ∧
      checkAnswers questions judged.answers = .ok () ∧ judged.inputTokens = none := by
  unfold answer
  by_cases hversion : questions.version = judge.questionSet
  · rw [if_neg (not_not.mpr hversion)]
    cases hfound : judge.byRequest.lookup (requestKey text state questions.questions.keys) with
    | none => simp
    | some answers =>
      simp only [Option.some.injEq]
      constructor
      · intro h
        cases hcheck : checkAnswers questions answers with
        | error why => simp [hcheck] at h
        | ok =>
          simp only [hcheck, Except.ok.injEq] at h
          rw [← h]
          exact ⟨hversion, rfl, hcheck, rfl⟩
      · rintro ⟨-, rfl, hcheck, hnone⟩
        simp only [hcheck]
        rw [← hnone]
  · rw [if_pos hversion]
    simp [hversion]

/-- A recorded judge keeps the contract of a judge. -/
def toJudge (judge : RecordedJudge) (text : Json → String) : Judge where
  id := judge.id
  evaluate _ state questions := judge.answer text state questions
  fits h := (answer_eq_ok_iff.mp h).2.2.1

/-! ### What is looked up -/

variable {cases : List RecordedCase} {byRequest later : AList fun _ : RequestKey => Answers}

/-- The recorded cases are looked up beside what was there. -/
theorem lookup_index (h : index text byRequest cases = .ok later) (key : RequestKey)
    (answers : Answers) :
    later.lookup key = some answers ↔ byRequest.lookup key = some answers ∨
      ∃ recorded ∈ cases, recorded.key text = key ∧ recorded.answers = answers := by
  induction cases generalizing byRequest with
  | nil =>
    cases h
    simp
  | cons recorded rest ih =>
    unfold index at h
    split at h
    · cases h
    · next hnew =>
      rw [ih h]
      by_cases hkey : recorded.key text = key
      · subst hkey
        have hnone : byRequest.lookup (recorded.key text) = none :=
          AList.lookup_eq_none.mpr hnew
        rw [AList.lookup_insert, hnone]
        simp
      · rw [AList.lookup_insert_ne (Ne.symm hkey)]
        simp [hkey]

/-- The cases are indexed exactly when no two of them, and none of what was there, are the same
request. -/
theorem index_ok_iff :
    (∃ later, index text byRequest cases = .ok later) ↔
      (cases.map (RecordedCase.key text)).Nodup ∧
        ∀ recorded ∈ cases, recorded.key text ∉ byRequest := by
  induction cases generalizing byRequest with
  | nil => simp [index]
  | cons recorded rest ih =>
    unfold index
    rw [List.map_cons, List.nodup_cons]
    by_cases hnew : recorded.key text ∈ byRequest
    · rw [if_pos hnew]
      simp [hnew]
    · rw [if_neg hnew, ih]
      simp only [AList.mem_insert, not_or, List.mem_map, not_exists, not_and, List.forall_mem_cons]
      constructor
      · rintro ⟨hrest, hfresh⟩
        refine ⟨⟨fun other hother heq => (hfresh other hother).1 heq, hrest⟩, hnew, ?_⟩
        exact fun other hother => (hfresh other hother).2
      · rintro ⟨⟨hdistinct, hrest⟩, -, hfresh⟩
        exact ⟨hrest, fun other hother => ⟨hdistinct other hother, hfresh other hother⟩⟩

variable {recording : Recording}

/-- **A recording can be replayed** exactly when its cases are different requests. -/
theorem new_ok_iff :
    (∃ judge, new text recording = .ok judge) ↔
      (recording.cases.map (RecordedCase.key text)).Nodup := by
  have hindex : (∃ later, index text ∅ recording.cases = .ok later) ↔
      (recording.cases.map (RecordedCase.key text)).Nodup ∧
        ∀ recorded ∈ recording.cases, recorded.key text ∉ (∅ : AList fun _ : RequestKey => Answers) :=
    index_ok_iff
  unfold new
  constructor
  · rintro ⟨judge, hjudge⟩
    apply (hindex.mp ?_).1
    cases hmade : index text ∅ recording.cases with
    | error e => simp [hmade, Except.map] at hjudge
    | ok byRequest => exact ⟨byRequest, rfl⟩
  · intro hnodup
    obtain ⟨byRequest, hmade⟩ := hindex.mpr ⟨hnodup, fun recorded _ => AList.notMem_empty _⟩
    exact ⟨_, by rw [hmade]; rfl⟩

/-- What the judge of a recording looks up. -/
theorem lookup_new (h : new text recording = .ok judge) (key : RequestKey) (answers : Answers) :
    judge.byRequest.lookup key = some answers ↔
      ∃ recorded ∈ recording.cases, recorded.key text = key ∧ recorded.answers = answers := by
  unfold new at h
  cases hmade : index text ∅ recording.cases with
  | error e => simp [hmade, Except.map] at h
  | ok byRequest =>
    simp only [hmade, Except.map, Except.ok.injEq] at h
    rw [← h, lookup_index hmade]
    simp

/-- The judge of a recording is named after the judge that was recorded. -/
theorem of_new (h : new text recording = .ok judge) :
    judge.id = s!"recorded/{recording.judge}" ∧ judge.questionSet = recording.questionSet := by
  unfold new at h
  cases hmade : index text ∅ recording.cases with
  | error e => simp [hmade, Except.map] at h
  | ok byRequest =>
    simp only [hmade, Except.map, Except.ok.injEq] at h
    rw [← h]
    exact ⟨rfl, rfl⟩

end RecordedJudge

end Serbero
