import Mathlib.Data.Rat.Floor
import Mathlib.Tactic.IntervalCases
import Std.Data.String.ToNat
import Serbero.Judge.Answer
import Serbero.Lib.Retry

/-! # The `typesafe` provider

Answers come over HTTP. Retryable failures are retried with exponential backoff, or after the wait
the server asks for; error bodies are dropped, and answers from a model other than the pinned one
are malformed. What a request carries is left out: the model says what becomes of the responses. -/

namespace Serbero

/-! ## Failures -/

/-- Why a response does not match the question set. -/
inductive Malformation
  | body (detail : String)
  | model (answered configured : String)
  | level (level : Nat)
  | answers (why : MalformedAnswers)
  deriving DecidableEq, Repr

/-- Provider-neutral failures. -/
inductive JudgeError
  /-- Overload, rate limit, network failure, timeout. -/
  | unavailable (detail : String)
  | unauthorized (detail : String)
  | invalidRequest (detail : String)
  | malformed (why : Malformation)
  deriving DecidableEq, Repr

/-- Whether retrying the same request may succeed. -/
def JudgeError.isRetryable : JudgeError → Bool
  | unavailable _ => true
  | _ => false

/-- A failed attempt, with the server's requested wait if it gave one, in nanoseconds. -/
structure Failure where
  error : JudgeError
  retryAfter : Option Nat
  deriving DecidableEq, Repr

/-- An error no wait was asked for. -/
def Failure.of (error : JudgeError) : Failure := ⟨error, none⟩

/-! ## Waits -/

def secondNanos : Nat := 1000000000

/-- The largest `u32`. -/
def u32Max : Nat := 2 ^ 32 - 1

/-- The longest `Duration`, in nanoseconds. -/
def durationMax : Nat := (2 ^ 64 - 1) * secondNanos + 999999999

/-- Longest wait a `retry-after` header can impose. -/
def maxRetryAfter : Nat := 30 * secondNanos

/-- Retries of retryable failures; durations in nanoseconds. -/
structure RetryPolicy where
  maxRetries : Nat
  initialBackoff : Nat
  maxBackoff : Nat
  deriving DecidableEq, Repr

namespace RetryPolicy

/-- 0.5 s doubling up to 5 s. -/
def new (maxRetries : Nat) : RetryPolicy := ⟨maxRetries, secondNanos / 2, 5 * secondNanos⟩

variable (policy : RetryPolicy)

/-- The wait before a retry, where the server asks for none. Products and powers saturate. -/
def backoff (retry : Nat) : Nat :=
  min (min (policy.initialBackoff * min (2 ^ retry) u32Max) durationMax) policy.maxBackoff

/-- The wait after a failure. -/
def wait (retry : Nat) (failure : Failure) : Nat := failure.retryAfter.getD (policy.backoff retry)

/-- No wait is longer than the policy's longest. -/
theorem backoff_le (retry : Nat) : policy.backoff retry ≤ policy.maxBackoff := min_le_right _ _

/-- Runs `attempt` until it succeeds, fails for good, or retries run out: the waits, and the
outcome. -/
def withRetries {α : Type} (attempt : Nat → Except Failure α) :
    List Nat × Except JudgeError α :=
  let made := Retry.run (fun failure => failure.error.isRetryable) attempt policy.maxRetries 0
  (made.1.zipIdx.map fun entry => policy.wait entry.2 entry.1, made.2.mapError Failure.error)

end RetryPolicy

/-! ## Responses -/

/-- What comes of sending a request. A status is shown with its reason phrase, a header's value is
the finite number it holds, if any, and a body may break off. -/
inductive HttpOutcome
  | network (isTimeout : Bool) (detail : String)
  | response (status : Nat) (shown : String) (header : String → Option ℚ)
    (body : Except (Bool × String) String)

/-- A failure of the network. -/
def Failure.network (isTimeout : Bool) (detail : String) : Failure :=
  .of (.unavailable ((if isTimeout then "timeout" else "network") ++ ": " ++ detail))

/-- The wait the server asks for, in nanoseconds: capped before it becomes a duration. -/
def retryAfter (header : String → Option ℚ) : Option Nat :=
  let found := fun name => (header name).filter fun value => decide (0 ≤ value)
  let seconds := ((found "retry-after-ms").map fun ms => ms / 1000).or (found "retry-after")
  seconds.map fun seconds => (round (min seconds 30 * secondNanos)).toNat

/-- The error of a status that is no success. -/
def statusError (status : Nat) (shown : String) : JudgeError :=
  let detail := s!"HTTP {shown}"
  if status = 401 ∨ status = 403 then .unauthorized detail
  else if status = 408 ∨ status = 429 ∨ (500 ≤ status ∧ status ≤ 599) then .unavailable detail
  else .invalidRequest detail

/-- The body of a 2xx response, or the mapped error. -/
def successBody : HttpOutcome → Except Failure String
  | .network isTimeout detail => .error (.network isTimeout detail)
  | .response status shown header body =>
    if 200 ≤ status ∧ status ≤ 299 then
      body.mapError fun failure => .network failure.1 failure.2
    else .error ⟨statusError status shown, retryAfter header⟩

/-- An answer on the wire: the probabilities only. -/
inductive WireAnswer
  | noul (p : ℚ)
  | choice (probabilities : Std.TreeMap String ℚ)
  | score (probabilities : Std.TreeMap String ℚ)

/-- The levels from `level` on, `left` of them. -/
def wireLevels (probabilities : Std.TreeMap String ℚ) :
    Nat → Nat → Except Malformation (List ℚ)
  | 0, _ => .ok []
  | left + 1, level =>
    match probabilities[Nat.repr level]? with
    | none => .error (.level level)
    | some p => (wireLevels probabilities left (level + 1)).map (p :: ·)

/-- The answer a wire answer stands for. -/
def WireAnswer.intoAnswer : WireAnswer → Except Malformation Answer
  | noul p => .ok (.noul p)
  | choice probabilities => .ok (.choice probabilities)
  | score probabilities => (wireLevels probabilities probabilities.size 0).map .score

/-- A response on the wire. -/
structure WireResponse where
  model : String
  answers : Std.TreeMap String WireAnswer
  inputTokens : Option Nat

/-- A judge's answers to one request, with the request size when the provider reports it. -/
structure JudgedAnswers where
  answers : Answers
  inputTokens : Option Nat

/-- The answers in id order, up to the first that is malformed. -/
def intoAnswers : List (String × WireAnswer) → Except Malformation (List (String × Answer))
  | [] => .ok []
  | (id, wire) :: rest =>
    match wire.intoAnswer with
    | .error why => .error why
    | .ok answer => (intoAnswers rest).map ((id, answer) :: ·)

/-- A judge of this provider. -/
structure TypeSafeJudge where
  model : String
  retry : RetryPolicy

namespace TypeSafeJudge

variable (judge : TypeSafeJudge) (parse : String → Except String WireResponse)

/-- What one response to a request comes to. -/
def evaluateOnce (questions : QuestionSet) (outcome : HttpOutcome) :
    Except Failure JudgedAnswers :=
  match successBody outcome with
  | .error failure => .error failure
  | .ok text =>
    match parse text with
    | .error detail => .error (.of (.malformed (.body s!"response body: {detail}")))
    | .ok wire =>
      if wire.model ≠ judge.model then
        .error (.of (.malformed (.model wire.model judge.model)))
      else
        match intoAnswers wire.answers.toList with
        | .error why => .error (.of (.malformed why))
        | .ok answers =>
          let answers : Answers := Std.TreeMap.ofList answers
          match checkAnswers questions answers with
          | .error why => .error (.of (.malformed (.answers why)))
          | .ok () => .ok ⟨answers, wire.inputTokens⟩

/-- Asks the questions, again after failures that may pass. -/
def evaluate (questions : QuestionSet) (outcomes : Nat → HttpOutcome) :
    List Nat × Except JudgeError JudgedAnswers :=
  judge.retry.withRetries fun index => judge.evaluateOnce parse questions (outcomes index)

/-- Whether the provider answers at all. -/
def healthCheck (outcomes : Nat → HttpOutcome) : List Nat × Except JudgeError Unit :=
  judge.retry.withRetries fun index => (successBody (outcomes index)).map fun _ => ()

end TypeSafeJudge

/-! ## What a request comes to -/

/-- A failure that may pass is one of the network, or a status that says so. -/
def HttpOutcome.Passing (outcome : HttpOutcome) : Prop :=
  ∃ failure, successBody outcome = .error failure ∧ failure.error.isRetryable = true

/-- No response asks for more than half a minute. -/
theorem retryAfter_le {header : String → Option ℚ} {nanos : Nat}
    (h : retryAfter header = some nanos) : nanos ≤ maxRetryAfter := by
  unfold retryAfter at h
  simp only [] at h
  obtain ⟨seconds, -, rfl⟩ := Option.map_eq_some_iff.mp h
  have hle : min seconds 30 * (secondNanos : ℚ) ≤ (maxRetryAfter : ℤ) := by
    have hmin : min seconds 30 ≤ (30 : ℚ) := min_le_right _ _
    have hnanos : (0 : ℚ) ≤ secondNanos := Nat.cast_nonneg _
    calc min seconds 30 * (secondNanos : ℚ) ≤ 30 * secondNanos :=
          mul_le_mul_of_nonneg_right hmin hnanos
      _ = (maxRetryAfter : ℤ) := by
          rw [maxRetryAfter]
          push_cast
          rfl
  have hround : round (min seconds 30 * (secondNanos : ℚ)) ≤ (maxRetryAfter : ℤ) := by
    by_contra hover
    have hfloor : (maxRetryAfter : ℤ) + 1 ≤ ⌊min seconds 30 * (secondNanos : ℚ) + 1 / 2⌋ := by
      rw [← round_eq]
      omega
    have hcast := Int.le_floor.mp hfloor
    push_cast at hcast hle
    linarith
  omega

/-- The wait a failed response asks for is bounded. -/
theorem retryAfter_of_successBody {outcome : HttpOutcome} {failure : Failure} {nanos : Nat}
    (h : successBody outcome = .error failure) (hnanos : failure.retryAfter = some nanos) :
    nanos ≤ maxRetryAfter := by
  cases outcome with
  | network isTimeout detail =>
    cases h
    cases hnanos
  | response status shown header body =>
    by_cases hstatus : 200 ≤ status ∧ status ≤ 299
    · rw [successBody, if_pos hstatus] at h
      cases body with
      | ok text => cases h
      | error broken =>
        cases h
        cases hnanos
    · rw [successBody, if_neg hstatus] at h
      cases h
      exact retryAfter_le hnanos

/-- The levels that were read are those of the map, in level order. -/
theorem wireLevels_ok {probabilities : Std.TreeMap String ℚ} {left level : Nat} {read : List ℚ}
    (h : wireLevels probabilities left level = .ok read) :
    read.length = left ∧
      ∀ i < left, probabilities[Nat.repr (level + i)]? = read[i]? := by
  induction left generalizing level read with
  | zero =>
    cases h
    exact ⟨rfl, fun i hi => absurd hi (Nat.not_lt_zero i)⟩
  | succ left ih =>
    rw [wireLevels] at h
    cases hfound : probabilities[Nat.repr level]? with
    | none => simp [hfound] at h
    | some p =>
      rw [hfound] at h
      cases hrest : wireLevels probabilities left (level + 1) with
      | error why => simp [hrest, Except.map] at h
      | ok rest =>
        rw [hrest] at h
        cases h
        obtain ⟨hlength, hlevels⟩ := ih hrest
        refine ⟨by rw [List.length_cons, hlength], fun i hi => ?_⟩
        cases i with
        | zero => exact hfound
        | succ i =>
          have harith : level + (i + 1) = level + 1 + i := by omega
          rw [harith, List.getElem?_cons_succ]
          exact hlevels i (Nat.lt_of_succ_lt_succ hi)

/-- Levels that are all in the map can be read. -/
theorem exists_wireLevels {probabilities : Std.TreeMap String ℚ} {left level : Nat}
    (h : ∀ i < left, Nat.repr (level + i) ∈ probabilities) :
    ∃ read, wireLevels probabilities left level = .ok read := by
  induction left generalizing level with
  | zero => exact ⟨[], rfl⟩
  | succ left ih =>
    have hrest : ∀ i < left, Nat.repr (level + 1 + i) ∈ probabilities := by
      intro i hi
      have harith : level + 1 + i = level + (i + 1) := by omega
      rw [harith]
      exact h (i + 1) (Nat.succ_lt_succ hi)
    obtain ⟨rest, heq⟩ := ih hrest
    have hfirst : Nat.repr level ∈ probabilities := h 0 (Nat.succ_pos left)
    obtain ⟨p, hp⟩ := Option.isSome_iff_exists.mp (Std.TreeMap.mem_iff_isSome_getElem?.mp hfirst)
    refine ⟨p :: rest, ?_⟩
    rw [wireLevels, hp, heq]
    rfl

/-- **A score on the wire.** It is read if and only if its keys are the numbers of its levels,
each once. -/
theorem score_levels_iff (probabilities : Std.TreeMap String ℚ) :
    (∃ answer, (WireAnswer.score probabilities).intoAnswer = .ok answer) ↔
      probabilities.keys.Perm ((List.range probabilities.size).map Nat.repr) := by
  have hnodup : probabilities.keys.Nodup := Std.TreeMap.nodup_keys
  have hsize : probabilities.keys.length = probabilities.size := Std.TreeMap.length_keys
  have hnumbers : ((List.range probabilities.size).map Nat.repr).Nodup :=
    List.Nodup.map (fun _ _ heq => Nat.repr_injective heq) List.nodup_range
  constructor
  · rintro ⟨answer, hanswer⟩
    have hread : ∃ read, wireLevels probabilities probabilities.size 0 = .ok read := by
      cases hlevels : wireLevels probabilities probabilities.size 0 with
      | ok read => exact ⟨read, rfl⟩
      | error why => simp [WireAnswer.intoAnswer, hlevels, Except.map] at hanswer
    obtain ⟨read, hread⟩ := hread
    obtain ⟨hlength, hlevels⟩ := wireLevels_ok hread
    -- every number is a key, and there are as many of them as keys
    have hsubset : (List.range probabilities.size).map Nat.repr ⊆ probabilities.keys := by
      intro number hnumber
      obtain ⟨i, hi, rfl⟩ := List.mem_map.mp hnumber
      have hlt : i < probabilities.size := List.mem_range.mp hi
      have hat := hlevels i hlt
      rw [Nat.zero_add, List.getElem?_eq_getElem (by omega)] at hat
      rw [Std.TreeMap.mem_keys, Std.TreeMap.mem_iff_isSome_getElem?, hat]
      rfl
    have hsubperm := List.subperm_of_subset hnumbers hsubset
    have hle : probabilities.keys.length ≤ ((List.range probabilities.size).map Nat.repr).length := by
      rw [hsize, List.length_map, List.length_range]
    exact (hsubperm.perm_of_length_le hle).symm
  · intro hperm
    have hkeys : ∀ i < probabilities.size, Nat.repr (0 + i) ∈ probabilities := by
      intro i hi
      rw [← Std.TreeMap.mem_keys, Nat.zero_add]
      exact hperm.mem_iff.mpr (List.mem_map_of_mem (List.mem_range.mpr hi))
    obtain ⟨read, hread⟩ := exists_wireLevels hkeys
    exact ⟨.score read, by rw [WireAnswer.intoAnswer, hread]; rfl⟩

/-- The answers of a response are those its wire answers stand for, id by id. -/
theorem intoAnswers_ok {wire : List (String × WireAnswer)} {answers : List (String × Answer)}
    (h : intoAnswers wire = .ok answers) :
    answers.map Prod.fst = wire.map Prod.fst ∧
      ∀ entry ∈ answers, ∃ given, (entry.1, given) ∈ wire ∧ given.intoAnswer = .ok entry.2 := by
  induction wire generalizing answers with
  | nil =>
    cases h
    exact ⟨rfl, fun entry hentry => absurd hentry List.not_mem_nil⟩
  | cons first rest ih =>
    obtain ⟨id, given⟩ := first
    rw [intoAnswers] at h
    cases hanswer : given.intoAnswer with
    | error why => simp [hanswer] at h
    | ok answer =>
      rw [hanswer] at h
      cases hrest : intoAnswers rest with
      | error why => simp [hrest, Except.map] at h
      | ok later =>
        rw [hrest] at h
        cases h
        obtain ⟨hids, hgiven⟩ := ih hrest
        refine ⟨by rw [List.map_cons, List.map_cons, hids], fun entry hentry => ?_⟩
        rcases List.mem_cons.mp hentry with rfl | hlater
        · exact ⟨given, List.mem_cons_self, hanswer⟩
        · obtain ⟨found, hfound, heq⟩ := hgiven entry hlater
          exact ⟨found, List.mem_cons_of_mem _ hfound, heq⟩

/-- A response that answers a request: a success whose body holds the pinned model's answers, each
as it stood on the wire, and together those the questions ask for. -/
structure TypeSafeJudge.Answers (judge : TypeSafeJudge) (parse : String → Except String WireResponse)
    (questions : QuestionSet) (outcome : HttpOutcome) (judged : JudgedAnswers)
    (wire : WireResponse) : Prop where
  body : ∃ text, successBody outcome = .ok text ∧ parse text = .ok wire
  model : wire.model = judge.model
  tokens : judged.inputTokens = wire.inputTokens
  fits : checkAnswers questions judged.answers = .ok ()
  given : ∀ (id : String) (answer : Answer), judged.answers[id]? = some answer ↔
    ∃ found, wire.answers[id]? = some found ∧ found.intoAnswer = .ok answer

/-- The map made of a response's answers holds exactly those. -/
theorem getElem?_intoAnswers {wire : Std.TreeMap String WireAnswer}
    {answers : List (String × Answer)} (h : intoAnswers wire.toList = .ok answers) (id : String)
    (answer : Answer) :
    (Std.TreeMap.ofList answers : Answers)[id]? = some answer ↔
      ∃ found, wire[id]? = some found ∧ found.intoAnswer = .ok answer := by
  obtain ⟨hids, hgiven⟩ := intoAnswers_ok h
  -- A map names each question once, so no answer hides another.
  have hdistinct : answers.Pairwise fun a b => ¬compare a.1 b.1 = .eq := by
    have hkeys : (wire.toList.map Prod.fst).Pairwise fun a b => ¬compare a b = .eq := by
      rw [Std.TreeMap.map_fst_toList_eq_keys]
      exact Std.TreeMap.distinct_keys
    rw [← hids] at hkeys
    exact List.pairwise_map.mp hkeys
  have hheldOf : ∀ entry ∈ answers, (Std.TreeMap.ofList answers : Answers)[entry.1]? = some entry.2 :=
    fun entry hentry =>
      Std.TreeMap.getElem?_ofList_of_mem (Std.ReflCmp.compare_self : compare entry.1 entry.1 = .eq)
        hdistinct hentry
  constructor
  · intro hanswer
    have hmem : id ∈ (Std.TreeMap.ofList answers : Answers) := by
      rw [Std.TreeMap.mem_iff_isSome_getElem?, hanswer]
      rfl
    rw [Std.TreeMap.mem_ofList, List.contains_iff_mem] at hmem
    obtain ⟨entry, hentry, rfl⟩ := List.mem_map.mp hmem
    rw [hheldOf entry hentry] at hanswer
    obtain ⟨found, hfound, heq⟩ := hgiven entry hentry
    refine ⟨found, Std.TreeMap.mem_toList_iff_getElem?_eq_some.mp hfound, ?_⟩
    rw [heq, Option.some.inj hanswer]
  · rintro ⟨found, hfound, heq⟩
    have hwire : (id, found) ∈ wire.toList := Std.TreeMap.mem_toList_iff_getElem?_eq_some.mpr hfound
    have hid : id ∈ answers.map Prod.fst := by
      rw [hids]
      exact List.mem_map_of_mem hwire
    obtain ⟨entry, hentry, rfl⟩ := List.mem_map.mp hid
    obtain ⟨other, hother, hanswer⟩ := hgiven entry hentry
    have hsame : other = found := by
      have hfirst := Std.TreeMap.mem_toList_iff_getElem?_eq_some.mp hother
      rw [hfirst] at hfound
      exact Option.some.inj hfound
    rw [hsame, heq] at hanswer
    cases hanswer
    exact hheldOf entry hentry

/-- What one response answers. -/
theorem TypeSafeJudge.answers_of_evaluateOnce {judge : TypeSafeJudge}
    {parse : String → Except String WireResponse} {questions : QuestionSet} {outcome : HttpOutcome}
    {judged : JudgedAnswers} (h : judge.evaluateOnce parse questions outcome = .ok judged) :
    ∃ wire, judge.Answers parse questions outcome judged wire := by
  unfold evaluateOnce at h
  cases hbody : successBody outcome with
  | error failure => simp [hbody] at h
  | ok text =>
    simp only [hbody] at h
    cases hwire : parse text with
    | error detail => simp [hwire] at h
    | ok wire =>
      simp only [hwire] at h
      by_cases hmodel : wire.model = judge.model
      · simp only [hmodel, ne_eq, not_true_eq_false, if_false] at h
        cases hanswers : intoAnswers wire.answers.toList with
        | error why => simp [hanswers] at h
        | ok answers =>
          simp only [hanswers] at h
          cases hfits : checkAnswers questions (Std.TreeMap.ofList answers) with
          | error why => simp [hfits] at h
          | ok =>
            simp only [hfits] at h
            cases h
            exact ⟨wire, ⟨text, hbody, hwire⟩, hmodel, rfl, hfits, getElem?_intoAnswers hanswers⟩
      · simp [hmodel] at h

/-- A response's failure that may pass is one of the network, or of the response's status. -/
theorem TypeSafeJudge.successBody_of_evaluateOnce {judge : TypeSafeJudge}
    {parse : String → Except String WireResponse} {questions : QuestionSet} {outcome : HttpOutcome}
    {failure : Failure} (h : judge.evaluateOnce parse questions outcome = .error failure)
    (hagain : failure.error.isRetryable = true) : successBody outcome = .error failure := by
  unfold evaluateOnce at h
  cases hbody : successBody outcome with
  | error found =>
    simp only [hbody] at h
    rw [Except.error.inj h]
  | ok text =>
    -- what is wrong with a body never passes
    exfalso
    simp only [hbody] at h
    cases hwire : parse text with
    | error detail =>
      simp only [hwire] at h
      cases h
      cases hagain
    | ok wire =>
      simp only [hwire] at h
      split at h
      · cases h
        cases hagain
      · split at h
        · cases h
          cases hagain
        · split at h
          · cases h
            cases hagain
          · cases h

/-- **What a request comes to.** At most `maxRetries` responses are passed over, each for a failure
that may pass, with a bounded wait after each; the next one decides. Answers are those of a response
of the pinned model that fits the questions, and a failure that may pass is given up on only when no
retry is left. -/
theorem typesafe_evaluate (judge : TypeSafeJudge) (parse : String → Except String WireResponse)
    (questions : QuestionSet) (outcomes : Nat → HttpOutcome) :
    (judge.evaluate parse questions outcomes).1.length ≤ judge.retry.maxRetries ∧
    (∀ wait ∈ (judge.evaluate parse questions outcomes).1,
      wait ≤ max maxRetryAfter judge.retry.maxBackoff) ∧
    (∀ i < (judge.evaluate parse questions outcomes).1.length, (outcomes i).Passing) ∧
    (∀ judged, (judge.evaluate parse questions outcomes).2 = .ok judged →
      ∃ wire, judge.Answers parse questions
        (outcomes (judge.evaluate parse questions outcomes).1.length) judged wire) ∧
    ∀ error, (judge.evaluate parse questions outcomes).2 = .error error →
      error.isRetryable = true →
        (judge.evaluate parse questions outcomes).1.length = judge.retry.maxRetries ∧
        (outcomes judge.retry.maxRetries).Passing := by
  -- The attempts that were passed over and the last one, as the retry loop leaves them.
  have hmade := Retry.run_made (fun failure => failure.error.isRetryable)
    (fun index => judge.evaluateOnce parse questions (outcomes index)) judge.retry.maxRetries 0
  generalize hrun : Retry.run (fun failure : Failure => failure.error.isRetryable)
    (fun index => judge.evaluateOnce parse questions (outcomes index)) judge.retry.maxRetries 0
      = made at hmade
  have hwaits : (judge.evaluate parse questions outcomes).1
      = made.1.zipIdx.map fun entry => judge.retry.wait entry.2 entry.1 := by
    rw [TypeSafeJudge.evaluate, RetryPolicy.withRetries, hrun]
  have hlast : (judge.evaluate parse questions outcomes).2 = made.2.mapError Failure.error := by
    rw [TypeSafeJudge.evaluate, RetryPolicy.withRetries, hrun]
  have hlength : (judge.evaluate parse questions outcomes).1.length = made.1.length := by
    rw [hwaits, List.length_map, List.length_zipIdx]
  -- An attempt is passed over for a failure that its own response explains.
  have hpassed : ∀ (i : Nat) (failure : Failure), made.1[i]? = some failure →
      successBody (outcomes i) = .error failure ∧ failure.error.isRetryable = true := by
    intro i failure hfailure
    obtain ⟨hattempt, hagain⟩ := hmade.passing i failure hfailure
    rw [Nat.zero_add] at hattempt
    exact ⟨judge.successBody_of_evaluateOnce hattempt hagain, hagain⟩
  have houtcome := hmade.last
  rw [Nat.zero_add] at houtcome
  rw [hlength, hlast]
  refine ⟨hmade.bounded, ?_, ?_, ?_, ?_⟩
  · intro wait hwait
    rw [hwaits] at hwait
    obtain ⟨entry, hentry, rfl⟩ := List.mem_map.mp hwait
    have hat : made.1[entry.2]? = some entry.1 := (List.mem_zipIdx_iff_getElem?).mp hentry
    -- A wait is the one the response asked for, or the back-off.
    cases hasked : entry.1.retryAfter with
    | none =>
      rw [RetryPolicy.wait, hasked]
      exact (judge.retry.backoff_le entry.2).trans (le_max_right _ _)
    | some nanos =>
      rw [RetryPolicy.wait, hasked]
      exact (retryAfter_of_successBody (hpassed _ _ hat).1 hasked).trans (le_max_left _ _)
  · intro i hi
    obtain ⟨hbody, hagain⟩ := hpassed i made.1[i] (List.getElem?_eq_getElem hi)
    exact ⟨made.1[i], hbody, hagain⟩
  · intro judged hjudged
    cases hend : made.2 with
    | error failure =>
      rw [hend] at hjudged
      cases hjudged
    | ok found =>
      rw [hend] at hjudged
      cases hjudged
      rw [hend] at houtcome
      exact judge.answers_of_evaluateOnce houtcome
  · intro error herror hagain
    cases hend : made.2 with
    | ok found =>
      rw [hend] at herror
      cases herror
    | error failure =>
      rw [hend] at herror
      cases herror
      rw [hend] at houtcome
      -- A failure that may be retried is the last only when the retries are used up.
      have hfull := hmade.final failure hend hagain
      refine ⟨hfull, failure, ?_, hagain⟩
      rw [← hfull]
      exact judge.successBody_of_evaluateOnce houtcome hagain

end Serbero
