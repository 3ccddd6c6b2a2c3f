import Mathlib.Algebra.BigOperators.Group.List.Basic
import Mathlib.Algebra.Order.Field.Rat
import Mathlib.Data.Rat.Lemmas
import Std.Data.TreeMap.Lemmas
import Serbero.Basic

/-! # The provider-neutral judge contract

Typed questions, raw probability answers, what Serbero derives from them with one formula for
every provider (winner, share, score value, confidence), and the check of an answer map against
its question set. Probabilities are exact rationals. What a question says (instructions, option
descriptions) goes to the provider only and is left out. -/

namespace Serbero

/-- One typed question, as far as its answer is checked against it. -/
inductive Question
  /-- Yes or no; answered with the probability of yes. -/
  | noul
  /-- One of a set of named options. -/
  | choice (options : List String)
  /-- A position on ordered levels, each described. -/
  | score (levels : List String)
  deriving DecidableEq, Repr

/-- The kind of a question or answer, for capability and shape checks. -/
inductive QuestionKind
  | noul
  | choice
  | score
  deriving DecidableEq, Repr

/-- The kind of a question. -/
def Question.kind : Question → QuestionKind
  | noul => .noul
  | choice _ => .choice
  | score _ => .score

/-- Questions asked together over one state, keyed by id. -/
structure QuestionSet where
  /-- The identifier stored with every answer. -/
  version : String
  /-- The questions by id. -/
  questions : Std.TreeMap String Question

/-- A raw answer: probabilities only. -/
inductive Answer
  /-- The probability of yes. -/
  | noul (pYes : ℚ)
  /-- One probability per option. -/
  | choice (probabilities : Std.TreeMap String ℚ)
  /-- One probability per level, in level order. -/
  | score (probabilities : List ℚ)

/-- Answers keyed by question id. -/
abbrev Answers := Std.TreeMap String Answer

/-- Why an answer does not fit its question. -/
inductive AnswerError
  | notUnit (p : ℚ)
  | sumOff (sum : ℚ)
  | optionsDiffer (answered asked : List String)
  | levelsDiffer (probabilities levels : Nat)
  | kindsDiffer (answer question : QuestionKind)
  deriving DecidableEq, Repr

/-- How far a probability distribution may be from summing to 1. -/
def sumTolerance : ℚ := 1 / 100

/-- A probability is a number in [0, 1]. -/
def checkUnit (p : ℚ) : Except AnswerError Unit :=
  if 0 ≤ p ∧ p ≤ 1 then .ok () else .error (.notUnit p)

/-- Every probability is in [0, 1] and they sum to 1 within the tolerance; `sum` is what the
earlier ones add up to. -/
def checkDistributionFrom (sum : ℚ) : List ℚ → Except AnswerError Unit
  | [] => if sumTolerance < |sum - 1| then .error (.sumOff sum) else .ok ()
  | p :: rest =>
    match checkUnit p with
    | .error e => .error e
    | .ok () => checkDistributionFrom (sum + p) rest

/-- The check of a whole distribution. -/
def checkDistribution (probabilities : List ℚ) : Except AnswerError Unit :=
  checkDistributionFrom 0 probabilities

/-- How concentrated a distribution is, from 0 (flat) to 1 (one certain answer). The peak is taken
as a share of the total. -/
def concentration (probabilities : List ℚ) : ℚ :=
  let n := probabilities.length
  let peak := probabilities.foldl max 0
  let total := probabilities.sum
  if n < 2 then 1
  else if total ≤ 0 then 0
  else max 0 (min 1 (((n : ℚ) * peak / total - 1) / ((n : ℚ) - 1)))

namespace Answer

/-- The kind of an answer. -/
def kind : Answer → QuestionKind
  | noul _ => .noul
  | choice _ => .choice
  | score _ => .score

/-- The option with the highest probability; a tie goes to the first option in name order. -/
def winner : Answer → Option String
  | choice probabilities =>
    (probabilities.toList.foldl
      (fun best entry =>
        match best with
        | none => some entry
        | some (_, top) => if top < entry.2 then some entry else best)
      none).map Prod.fst
  | _ => none

/-- The probability of one option of a choice (0 when absent). -/
def probability (answer : Answer) (option : String) : ℚ :=
  match answer with
  | choice probabilities => (probabilities[option]?).getD 0
  | _ => 0

/-- An option's probability as a share of the choice's total (0 when absent). -/
def share (answer : Answer) (option : String) : ℚ :=
  match answer with
  | choice probabilities =>
    let total := probabilities.values.sum
    if total ≤ 0 then 0 else answer.probability option / total
  | _ => 0

/-- The probability-weighted level of a score, from 0 to 1, normalized by the sum of the
weights. -/
def scoreValue : Answer → Option ℚ
  | score probabilities =>
    let top := probabilities.length - 1
    let total := probabilities.sum
    if top = 0 then none
    else if total ≤ 0 then none
    else
      let weighted := (probabilities.zipIdx.map fun entry => entry.1 * (entry.2 : ℚ) / (top : ℚ)).sum
      some (max 0 (min 1 (weighted / total)))
  | _ => none

/-- How concentrated a choice or score distribution is; a noul has no confidence. -/
def confidence : Answer → Option ℚ
  | noul _ => none
  | choice probabilities => some (concentration probabilities.values)
  | score probabilities => some (concentration probabilities)

/-- Whether an answer fits a question: same kind, exactly the question's options or levels,
probabilities in [0, 1] summing to 1. -/
def check (answer : Answer) (question : Question) : Except AnswerError Unit :=
  match answer, question with
  | noul pYes, .noul => checkUnit pYes
  | choice probabilities, .choice options =>
    let asked := options.insertionSort (· ≤ ·)
    let answered := probabilities.keys
    if answered ≠ asked then .error (.optionsDiffer answered asked)
    else checkDistribution probabilities.values
  | score probabilities, .score levels =>
    if probabilities.length ≠ levels.length then
      .error (.levelsDiffer probabilities.length levels.length)
    else checkDistribution probabilities
  | answer, question => .error (.kindsDiffer answer.kind question.kind)

end Answer

/-- Why an answer map was refused. -/
inductive MalformedAnswers
  | unknownQuestion (id : String)
  | noAnswer (id : String)
  | badAnswer (id : String) (why : AnswerError)
  deriving DecidableEq, Repr

/-- The answers to a list of asked questions, each present and fitting. -/
def checkEach (answers : Answers) : List (String × Question) → Except MalformedAnswers Unit
  | [] => .ok ()
  | (id, question) :: rest =>
    match answers[id]? with
    | none => .error (.noAnswer id)
    | some answer =>
      match answer.check question with
      | .error why => .error (.badAnswer id why)
      | .ok () => checkEach answers rest

/-- Checks a full answer map against its question set: one valid answer per question and nothing
else. -/
def checkAnswers (questions : QuestionSet) (answers : Answers) : Except MalformedAnswers Unit :=
  match answers.keys.find? fun id => !questions.questions.contains id with
  | some extra => .error (.unknownQuestion extra)
  | none => checkEach answers questions.questions.toList

/-! ## What a checked answer map holds -/

/-- The fold behind `winner` ends in an entry it read, or in the one it started from. -/
theorem mem_of_foldl_winner {entries : List (String × ℚ)} {best : Option (String × ℚ)}
    {found : String × ℚ}
    (h : entries.foldl
      (fun best entry =>
        match best with
        | none => some entry
        | some (_, top) => if top < entry.2 then some entry else best) best = some found) :
    found ∈ entries ∨ best = some found := by
  induction entries generalizing best with
  | nil => exact Or.inr h
  | cons entry rest ih =>
    rw [List.foldl_cons] at h
    rcases ih h with hmem | hbest
    · exact Or.inl (List.mem_cons_of_mem _ hmem)
    · cases best with
      | none => exact Or.inl (by rw [Option.some.inj hbest]; simp)
      | some top =>
        dsimp only at hbest
        split at hbest
        · exact Or.inl (by rw [Option.some.inj hbest]; simp)
        · exact Or.inr hbest

/-- The winner of a choice is one of its options. -/
theorem Answer.winner_mem_keys {probabilities : Std.TreeMap String ℚ} {winner : String}
    (h : (Answer.choice probabilities).winner = some winner) : winner ∈ probabilities.keys := by
  obtain ⟨entry, hfold, rfl⟩ := Option.map_eq_some_iff.mp h
  rcases mem_of_foldl_winner hfold with hmem | hnone
  · rw [← Std.TreeMap.map_fst_toList_eq_keys]
    exact List.mem_map_of_mem hmem
  · exact absurd hnone (by simp)

/-- The winner of an answer that fits a choice is one of the question's options. -/
theorem Answer.winner_mem_options {answer : Answer} {options : List String} {winner : String}
    (fits : answer.check (.choice options) = .ok ()) (h : answer.winner = some winner) :
    winner ∈ options := by
  cases answer with
  | choice probabilities =>
    have hkeys := Answer.winner_mem_keys h
    simp only [Answer.check] at fits
    split at fits
    · exact absurd fits (by simp)
    · next heq =>
      rw [not_not.mp heq] at hkeys
      exact (List.mem_insertionSort _).mp hkeys
  | noul => exact absurd h (by simp [Answer.winner])
  | score => exact absurd h (by simp [Answer.winner])

/-- Every question of a checked list has a fitting answer. -/
theorem fits_of_checkEach {answers : Answers} {questions : List (String × Question)}
    (h : checkEach answers questions = .ok ()) {id : String} {question : Question}
    (hmem : (id, question) ∈ questions) {answer : Answer} (hanswer : answers[id]? = some answer) :
    answer.check question = .ok () := by
  induction questions with
  | nil => exact absurd hmem (by simp)
  | cons first rest ih =>
    obtain ⟨firstId, firstQuestion⟩ := first
    rw [checkEach] at h
    cases hfirst : answers[firstId]? with
    | none => simp [hfirst] at h
    | some firstAnswer =>
      cases hcheck : firstAnswer.check firstQuestion with
      | error why => simp [hfirst, hcheck] at h
      | ok =>
        simp only [hfirst, hcheck] at h
        rcases List.mem_cons.mp hmem with heq | hrest
        · obtain ⟨rfl, rfl⟩ := Prod.mk.inj heq
          rw [hanswer, Option.some.injEq] at hfirst
          rw [hfirst]
          exact hcheck
        · exact ih h hrest

/-- Every question of a checked list has an answer. -/
theorem exists_answer_of_checkEach {answers : Answers} {questions : List (String × Question)}
    (h : checkEach answers questions = .ok ()) {id : String} {question : Question}
    (hmem : (id, question) ∈ questions) : ∃ answer, answers[id]? = some answer := by
  induction questions with
  | nil => exact absurd hmem List.not_mem_nil
  | cons first rest ih =>
    rw [checkEach] at h
    cases hfirst : answers[first.1]? with
    | none => simp [hfirst] at h
    | some firstAnswer =>
      rcases List.mem_cons.mp hmem with rfl | hrest
      · exact ⟨firstAnswer, hfirst⟩
      · cases hcheck : firstAnswer.check first.2 with
        | error why => simp [hfirst, hcheck] at h
        | ok =>
          simp only [hfirst, hcheck] at h
          exact ih h hrest

/-- A checked answer map answers every question of the set. -/
theorem exists_answer_of_checkAnswers {questions : QuestionSet} {answers : Answers}
    (h : checkAnswers questions answers = .ok ()) {id : String} {question : Question}
    (hquestion : questions.questions[id]? = some question) :
    ∃ answer, answers[id]? = some answer := by
  rw [checkAnswers] at h
  split at h
  · exact absurd h (by simp)
  · exact exists_answer_of_checkEach h (Std.TreeMap.mem_toList_iff_getElem?_eq_some.mpr hquestion)

/-- **A checked answer map.** Every answer is to a question of the set and fits it. -/
theorem exists_question_of_checkAnswers {questions : QuestionSet} {answers : Answers}
    (h : checkAnswers questions answers = .ok ()) {id : String} {answer : Answer}
    (hanswer : answers[id]? = some answer) :
    ∃ question, questions.questions[id]? = some question ∧ answer.check question = .ok () := by
  rw [checkAnswers] at h
  split at h
  · exact absurd h (by simp)
  · next hnone =>
    have hkey : id ∈ answers.keys := by
      rw [Std.TreeMap.mem_keys, Std.TreeMap.mem_iff_isSome_getElem?, hanswer]
      rfl
    have hcontains := List.find?_eq_none.mp hnone id hkey
    simp only [Bool.not_eq_true', Bool.not_eq_false] at hcontains
    obtain ⟨question, hquestion⟩ : ∃ question, questions.questions[id]? = some question := by
      rw [← Option.isSome_iff_exists, ← Std.TreeMap.contains_eq_isSome_getElem?]
      exact hcontains
    refine ⟨question, hquestion, fits_of_checkEach h ?_ hanswer⟩
    exact Std.TreeMap.mem_toList_iff_getElem?_eq_some.mpr hquestion

end Serbero
