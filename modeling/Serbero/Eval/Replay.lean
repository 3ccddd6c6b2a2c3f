import Serbero.Eval.Metrics
import Serbero.Judge.Questions
import Serbero.Judge.Recorded

/-! # Golden cases, and replaying a run over them

A golden case is one conversation's turn state with the answers a person can give. A run sends every
case to a judge, in order; what it answered is scored against the labels, and can be recorded and
run again. -/

namespace Serbero

/-! ## Cases -/

/-- A member of an object; null for anything else. -/
def Json.get : Json → String → Json
  | .object fields, name => (fields.lookup name).getD .null
  | _, _ => .null

/-- The items of an array. -/
def Json.asArray : Json → Option (List Json)
  | .array items => some items
  | _ => none

/-- A golden case. Questions without a label are not scored. -/
structure Case where
  id : String
  lang : String
  state : Json
  /-- The turn was judged while guiding. -/
  guiding : Bool
  expect : Std.TreeMap String Label

/-- Why a case is refused. -/
inductive CaseProblem
  | noTranscript
  | notAsked (id : String)
  | notAnAnswer (id : String) (label : Label)
  deriving DecidableEq, Repr

/-- Whether a label is an answer to a question: one of a choice's options, or a yes or no. -/
def Label.answers : Label → Question → Bool
  | .yes _, .noul => true
  | .option name, .choice options => options.contains name
  | _, _ => false

namespace Case

variable (golden : Case)

/-- The parties with messages in `latest`. -/
def wrote : List Party :=
  Party.both.filter fun party =>
    ((golden.state.get "latest").get party.name).asArray.any fun ids => !ids.isEmpty

/-- The questions a turn over this state asks. -/
def questions (turn : QuestionSet) : QuestionSet :=
  TurnQuestions.forTurn turn golden.wrote golden.guiding

/-- The first label that names no asked question or none of its answers. -/
def checkLabels (asked : QuestionSet) : List (String × Label) → Except CaseProblem Unit
  | [] => .ok ()
  | (id, label) :: rest =>
    match asked.questions[id]? with
    | none => .error (.notAsked id)
    | some question =>
      if label.answers question then checkLabels asked rest else .error (.notAnAnswer id label)

/-- Every label must name an asked question and one of its answers. -/
def validate (turn : QuestionSet) : Except CaseProblem Unit :=
  if (golden.state.get "transcript").asArray.isNone then .error .noTranscript
  else checkLabels (golden.questions turn) golden.expect.toList

end Case

/-- Per-party questions are scored together, whichever party they asked about. -/
def baseQuestion (id : String) : String :=
  let base := ["buyer_", "seller_"].findSome? fun party =>
    (TurnQuestions.strip party id).bind fun rest =>
      if TurnQuestions.perPartyQuestions.contains rest then some ("<party>_" ++ rest) else none
  base.getD id

/-- Every labelled question of a case that has an answer. -/
def Case.score (golden : Case) (answers : Answers) : List Scored :=
  golden.expect.toList.filterMap fun entry =>
    answers[entry.1]?.map fun answer => ⟨baseQuestion entry.1, entry.2, answer⟩

/-! ## Runs -/

/-- One case with the judge's answers. -/
structure CaseRun where
  golden : Case
  judged : JudgedAnswers

/-- Sends the cases from request `number` on, in order; the first failure ends the run. -/
def runFrom (judge : Judge) (turn : QuestionSet) : Nat → List Case → Except JudgeError (List CaseRun)
  | _, [] => .ok []
  | number, golden :: rest =>
    match judge.evaluate number golden.state (golden.questions turn) with
    | .error failure => .error failure
    | .ok judged => (runFrom judge turn (number + 1) rest).map (⟨golden, judged⟩ :: ·)

/-- Sends every case to the judge. -/
def runCases (judge : Judge) (turn : QuestionSet) (cases : List Case) :
    Except JudgeError (List CaseRun) :=
  runFrom judge turn 0 cases

/-- The answers as a recording. -/
def recording (judgeId questionSet : String) (runs : List CaseRun) : Recording where
  judge := judgeId
  questionSet := questionSet
  cases := runs.map fun run => ⟨run.golden.id, run.golden.state, run.judged.answers⟩

/-- What a run is scored on. -/
def scores (runs : List CaseRun) : List Scored :=
  runs.flatMap fun run => run.golden.score run.judged.answers

/-- A run as it is replayed: a recording does not keep the size of a request. -/
def CaseRun.replayed (run : CaseRun) : CaseRun :=
  { run with judged := { run.judged with inputTokens := none } }

/-- The request a case makes. -/
def Case.request (text : Json → String) (turn : QuestionSet) (golden : Case) : RequestKey :=
  requestKey text golden.state (golden.questions turn).questions.keys

/-! ## What a run is -/

section run

variable {judge : Judge} {turn : QuestionSet} {number : Nat} {cases : List Case}
  {runs : List CaseRun}

/-- A run has every case, in order, with what the judge answered to it. -/
theorem runFrom_ok (h : runFrom judge turn number cases = .ok runs) :
    runs.map CaseRun.golden = cases ∧
      ∀ (i : Nat) run, runs[i]? = some run →
        judge.evaluate (number + i) run.golden.state (run.golden.questions turn) =
          .ok run.judged := by
  induction cases generalizing number runs with
  | nil =>
    cases h
    exact ⟨rfl, fun i run hrun => by simp at hrun⟩
  | cons golden rest ih =>
    unfold runFrom at h
    cases hjudged : judge.evaluate number golden.state (golden.questions turn) with
    | error failure => simp [hjudged] at h
    | ok judged =>
      cases hrest : runFrom judge turn (number + 1) rest with
      | error failure => simp [hjudged, hrest, Except.map] at h
      | ok later =>
        simp only [hjudged, hrest, Except.map, Except.ok.injEq] at h
        obtain ⟨hcases, hanswers⟩ := ih hrest
        rw [← h]
        refine ⟨by rw [List.map_cons, hcases], fun i run hrun => ?_⟩
        cases i with
        | zero =>
          cases hrun
          exact hjudged
        | succ i =>
          have harith : number + (i + 1) = number + 1 + i := by omega
          rw [harith]
          exact hanswers i run hrun

/-- What a run holds fits the questions of its case. -/
theorem fits_of_runFrom (h : runFrom judge turn number cases = .ok runs) {run : CaseRun}
    (hrun : run ∈ runs) :
    checkAnswers (run.golden.questions turn) run.judged.answers = .ok () := by
  obtain ⟨i, hi⟩ := List.mem_iff_getElem?.mp hrun
  exact judge.fits ((runFrom_ok h).2 i run hi)

end run

/-! ## Scoring -/

/-- Each label of a list that was checked is an answer to an asked question. -/
theorem answers_of_checkLabels {asked : QuestionSet} {labels : List (String × Label)}
    (h : Case.checkLabels asked labels = .ok ()) {entry : String × Label} (hentry : entry ∈ labels) :
    ∃ question, asked.questions[entry.1]? = some question ∧ entry.2.answers question = true := by
  induction labels with
  | nil => exact absurd hentry List.not_mem_nil
  | cons first rest ih =>
    unfold Case.checkLabels at h
    cases hasked : asked.questions[first.1]? with
    | none => simp [hasked] at h
    | some question =>
      simp only [hasked] at h
      by_cases hanswers : first.2.answers question = true
      · rw [if_pos hanswers] at h
        rcases List.mem_cons.mp hentry with rfl | hrest
        · exact ⟨question, hasked, hanswers⟩
        · exact ih h hrest
      · rw [if_neg hanswers] at h
        cases h

/-- The labels of a valid case. -/
theorem Case.answers_of_validate {golden : Case} {turn : QuestionSet}
    (h : golden.validate turn = .ok ()) {entry : String × Label}
    (hentry : entry ∈ golden.expect.toList) :
    ∃ question, (golden.questions turn).questions[entry.1]? = some question ∧
      entry.2.answers question = true := by
  unfold validate at h
  split at h
  · cases h
  · exact answers_of_checkLabels h hentry

/-- What a label of a case is scored as: the very answer the run has to the label's question, which
fits that question as the label does. -/
structure Scored.Answers (turn : QuestionSet) (run : CaseRun) (entry : String × Label)
    (item : Scored) : Prop where
  base : item.base = baseQuestion entry.1
  label : item.label = entry.2
  answer : run.judged.answers[entry.1]? = some item.answer
  fits : ∃ question, (run.golden.questions turn).questions[entry.1]? = some question ∧
    item.answer.check question = .ok () ∧ item.label.answers question = true

/-- The labels of a run's cases, in order, each with the run over its case. -/
def labels (runs : List CaseRun) : List (CaseRun × String × Label) :=
  runs.flatMap fun run => run.golden.expect.toList.map (run, ·)

/-- Every label of a valid case is scored as it was answered. -/
theorem Case.score_of_validate {run : CaseRun} {turn : QuestionSet}
    (hvalid : run.golden.validate turn = .ok ())
    (hfits : checkAnswers (run.golden.questions turn) run.judged.answers = .ok ()) :
    List.Forall₂ (fun entry item => Scored.Answers turn run entry item)
      run.golden.expect.toList (run.golden.score run.judged.answers) := by
  have hanswered : ∀ entry ∈ run.golden.expect.toList, ∃ answer,
      run.judged.answers[entry.1]? = some answer ∧
        Scored.Answers turn run entry ⟨baseQuestion entry.1, entry.2, answer⟩ := by
    intro entry hentry
    obtain ⟨question, hquestion, hlabel⟩ := answers_of_validate hvalid hentry
    obtain ⟨answer, hanswer⟩ := exists_answer_of_checkAnswers hfits hquestion
    obtain ⟨found, hfound, hcheck⟩ := exists_question_of_checkAnswers hfits hanswer
    obtain rfl : question = found := Option.some.inj (hquestion.symm.trans hfound)
    exact ⟨answer, hanswer, rfl, rfl, hanswer, question, hquestion, hcheck, hlabel⟩
  unfold score
  generalize run.golden.expect.toList = entries at hanswered ⊢
  induction entries with
  | nil => exact .nil
  | cons entry rest ih =>
    obtain ⟨answer, hanswer, hscored⟩ := hanswered entry List.mem_cons_self
    rw [List.filterMap_cons, hanswer]
    exact .cons hscored (ih fun later hlater => hanswered later (List.mem_cons_of_mem _ hlater))

/-- **Every label is scored.** In a run over valid cases, whatever the judge, the scored items are
the labels of the cases, in order, each beside the run's own answer to its question. -/
theorem labels_scored {judge : Judge} {turn : QuestionSet} {cases : List Case}
    {runs : List CaseRun} (hvalid : ∀ golden ∈ cases, golden.validate turn = .ok ())
    (hrun : runCases judge turn cases = .ok runs) :
    runs.map CaseRun.golden = cases ∧
      (∀ (i : Nat) run, runs[i]? = some run →
        judge.evaluate i run.golden.state (run.golden.questions turn) = .ok run.judged) ∧
      List.Forall₂ (fun labelled item => Scored.Answers turn labelled.1 labelled.2 item)
        (labels runs) (scores runs) := by
  obtain ⟨hcases, hanswers⟩ := runFrom_ok hrun
  refine ⟨hcases, fun i run hi => ?_, ?_⟩
  · have hanswer := hanswers i run hi
    rwa [Nat.zero_add] at hanswer
  · have hscored : ∀ run ∈ runs, List.Forall₂ (fun entry item => Scored.Answers turn run entry item)
        run.golden.expect.toList (run.golden.score run.judged.answers) := by
      intro run hmem
      refine Case.score_of_validate (hvalid run.golden ?_) (fits_of_runFrom hrun hmem)
      rw [← hcases]
      exact List.mem_map_of_mem hmem
    clear hvalid hrun hcases hanswers
    unfold labels scores
    induction runs with
    | nil => exact .nil
    | cons run rest ih =>
      rw [List.flatMap_cons, List.flatMap_cons]
      refine List.rel_append ?_ (ih fun later hlater => hscored later (List.mem_cons_of_mem _ hlater))
      rw [List.forall₂_map_left_iff]
      exact hscored run List.mem_cons_self

/-- A provider that answers the one question asked of it, once it has been retried. -/
def smallProvider : Judge :=
  let wire : WireResponse := ⟨"jev", .ofList [("fraud_signal", WireAnswer.noul (1 / 10))], some 512⟩
  let judge : TypeSafeJudge := ⟨"jev", .new 1⟩
  judge.toJudge "typesafe/jev" (fun _ => .ok wire) fun _ attempt =>
    if attempt = 0 then .response 503 "503 Service Unavailable" (fun _ => none) (.ok "")
    else .response 200 "200 OK" (fun _ => none) (.ok "answers")

/-- A case that labels the one question, over a conversation in which nothing was written. -/
def smallCase (note : String) : Case where
  id := note
  lang := "en"
  state := .object [("note", .string note), ("transcript", .array [])]
  guiding := false
  expect := .ofList [("fraud_signal", Label.yes false)]

/-- The set of the one question. -/
def smallSet : QuestionSet := ⟨"qs-1", .ofList [("fraud_signal", Question.noul)]⟩

/-- The two small cases run. -/
theorem exists_runCases_small :
    ∃ runs, runCases smallProvider smallSet [smallCase "a", smallCase "b"] = .ok runs := by
  have hok : (runCases smallProvider smallSet [smallCase "a", smallCase "b"]).isOk = true := by
    decide +kernel
  cases hrun : runCases smallProvider smallSet [smallCase "a", smallCase "b"] with
  | error failure =>
    rw [hrun] at hok
    cases hok
  | ok runs => exact ⟨runs, rfl⟩

/-- Each small case is scored by its own run. -/
theorem labels_scored_small :
    ∃ runs, runCases smallProvider smallSet [smallCase "a", smallCase "b"] = .ok runs ∧
      runs.map CaseRun.golden = [smallCase "a", smallCase "b"] ∧
      (∀ (i : Nat) run, runs[i]? = some run → smallProvider.evaluate i run.golden.state
        (run.golden.questions smallSet) = .ok run.judged) ∧
      List.Forall₂ (fun labelled item => Scored.Answers smallSet labelled.1 labelled.2 item)
        (labels runs) (scores runs) := by
  obtain ⟨runs, hrun⟩ := exists_runCases_small
  refine ⟨runs, hrun, labels_scored (fun golden hgolden => ?_) hrun⟩
  rcases List.mem_pair.mp hgolden with rfl | rfl <;> decide +kernel

/-! ## Replaying -/

section replay

variable {text : Json → String} {judge : Judge} {turn : QuestionSet} {cases : List Case}
  {runs : List CaseRun}

/-- The recorded cases of a run are the requests it made. -/
theorem keys_recording (h : runCases judge turn cases = .ok runs) (judgeId questionSet : String) :
    (recording judgeId questionSet runs).cases.map (RecordedCase.key text) =
      cases.map (Case.request text turn) := by
  rw [← (runFrom_ok h).1, recording, List.map_map, List.map_map]
  apply List.map_congr_left
  intro run hrun
  rw [Function.comp_apply, Function.comp_apply, RecordedCase.key, Case.request,
    keys_of_checkAnswers (fits_of_runFrom h hrun)]

/-- A judge that looks up every case of a run gives its answers again. -/
theorem runFrom_recorded {recorded : RecordedJudge} (hversion : recorded.questionSet = turn.version)
    {number : Nat} {runs : List CaseRun}
    (hlookup : ∀ run ∈ runs, recorded.byRequest.lookup (run.golden.request text turn) =
      some run.judged.answers)
    (hfits : ∀ run ∈ runs,
      checkAnswers (run.golden.questions turn) run.judged.answers = .ok ()) :
    runFrom (recorded.toJudge text) turn number (runs.map CaseRun.golden) =
      .ok (runs.map CaseRun.replayed) := by
  induction runs generalizing number with
  | nil => rfl
  | cons run rest ih =>
    have hanswer : (recorded.toJudge text).evaluate number run.golden.state
        (run.golden.questions turn) = .ok ⟨run.judged.answers, none⟩ :=
      RecordedJudge.answer_eq_ok_iff.mpr ⟨hversion.symm, hlookup run List.mem_cons_self,
        hfits run List.mem_cons_self, rfl⟩
    rw [List.map_cons, runFrom, hanswer]
    simp only []
    rw [ih (fun later hlater => hlookup later (List.mem_cons_of_mem _ hlater))
      fun later hlater => hfits later (List.mem_cons_of_mem _ hlater)]
    rfl

/-- A replayed run is scored as the run was. -/
theorem scores_replayed (runs : List CaseRun) : scores (runs.map CaseRun.replayed) = scores runs := by
  rw [scores, scores, List.flatMap_map]
  rfl

/-- **Replaying a run.** A judge's run over the cases can be replayed from its recording exactly when
no two cases make the same request. The replay answers every case as the judge did, is scored the
same, and recording it again gives the recorded cases again. -/
theorem replay_run (h : runCases judge turn cases = .ok runs) :
    (∃ recorded, RecordedJudge.new text (recording judge.id turn.version runs) = .ok recorded ∧
      runCases (recorded.toJudge text) turn cases = .ok (runs.map CaseRun.replayed) ∧
      scores (runs.map CaseRun.replayed) = scores runs ∧
      recording recorded.id turn.version (runs.map CaseRun.replayed) =
        { recording judge.id turn.version runs with judge := s!"recorded/{judge.id}" }) ↔
      (cases.map (Case.request text turn)).Nodup := by
  constructor
  · rintro ⟨recorded, hnew, -⟩
    rw [← keys_recording h judge.id turn.version]
    exact RecordedJudge.new_ok_iff.mp ⟨recorded, hnew⟩
  · intro hdistinct
    rw [← keys_recording h judge.id turn.version] at hdistinct
    obtain ⟨recorded, hnew⟩ := RecordedJudge.new_ok_iff.mpr hdistinct
    obtain ⟨hid, hversion⟩ := RecordedJudge.of_new hnew
    refine ⟨recorded, hnew, ?_, scores_replayed runs, ?_⟩
    · rw [runCases, ← (runFrom_ok h).1]
      refine runFrom_recorded hversion (fun run hrun => ?_) fun run hrun => fits_of_runFrom h hrun
      rw [RecordedJudge.lookup_new hnew]
      refine ⟨_, List.mem_map_of_mem hrun, ?_, rfl⟩
      rw [RecordedCase.key, Case.request, keys_of_checkAnswers (fits_of_runFrom h hrun)]
    · rw [hid, recording, recording, List.map_map]
      rfl

/-- The text of a small case's state. -/
def smallText (state : Json) : String :=
  match state.get "note" with
  | .string note => "\x7b\"note\":\"" ++ note ++ "\",\"transcript\":[]\x7d"
  | _ => "null"

/-- The small run recorded and replayed. -/
theorem replay_run_small :
    ∃ runs, runCases smallProvider smallSet [smallCase "a", smallCase "b"] = .ok runs ∧
      ((∃ recorded, RecordedJudge.new smallText (recording smallProvider.id smallSet.version runs) =
          .ok recorded ∧
        runCases (recorded.toJudge smallText) smallSet [smallCase "a", smallCase "b"] =
          .ok (runs.map CaseRun.replayed) ∧
        scores (runs.map CaseRun.replayed) = scores runs ∧
        recording recorded.id smallSet.version (runs.map CaseRun.replayed) =
          { recording smallProvider.id smallSet.version runs with
            judge := s!"recorded/{smallProvider.id}" }) ↔
        ([smallCase "a", smallCase "b"].map (Case.request smallText smallSet)).Nodup) := by
  obtain ⟨runs, hrun⟩ := exists_runCases_small
  exact ⟨runs, hrun, replay_run hrun⟩

/-- **Never a guess.** What the judge of a recording answers, to any request, was recorded for that
state text, those questions and that question set. -/
theorem answer_recorded {recorded : RecordedJudge} {made : Recording} {state : Json}
    {questions : QuestionSet} {judged : JudgedAnswers}
    (hnew : RecordedJudge.new text made = .ok recorded)
    (h : recorded.answer text state questions = .ok judged) :
    questions.version = made.questionSet ∧
      ∃ found ∈ made.cases, text found.state = text state ∧
        found.answers.keys = questions.questions.keys ∧ found.answers = judged.answers := by
  obtain ⟨hversion, hlookup, -⟩ := RecordedJudge.answer_eq_ok_iff.mp h
  obtain ⟨found, hmem, hkey, hanswers⟩ := (RecordedJudge.lookup_new hnew _ _).mp hlookup
  obtain ⟨hkeys, hstate⟩ := Prod.mk.inj hkey
  exact ⟨hversion.trans (RecordedJudge.of_new hnew).2, found, hmem, hstate, hkeys, hanswers⟩

end replay

end Serbero
