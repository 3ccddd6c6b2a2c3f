import Mathlib.Algebra.Order.Field.Basic
import Mathlib.Tactic.Linarith
import Mathlib.Tactic.Ring

/-! # A bucket of tokens

A bucket fills at a steady rate and never holds more than its burst. A call takes one token, or is
refused when there is none. Whatever the times of the calls, no window takes more than a full bucket
and what flowed in during the window (`Sound.windows`), and a call is refused only when one more
would be too many for some window that ends with it (`Sound.refused`).

Both follow from one potential: the tokens left and the calls accepted since a time, against what
a bucket that was full at that time could have given. The potential never exceeds that supply for any
start of the window, and reaches it for the last time at which the bucket was full. -/

variable {K : Type*}

/-- The tokens of a bucket when it was last refilled. -/
structure Bucket (K : Type*) where
  tokens : K
  refilled : K
  deriving DecidableEq, Repr

namespace Bucket

/-! ## Counting the accepted calls -/

section counts

variable [LinearOrder K]

/-- How many calls were accepted at times from `a` to `b`. -/
def within (accepted : List K) (a b : K) : Nat :=
  accepted.countP fun time => decide (a ≤ time ∧ time ≤ b)

/-- How many calls were accepted at times from `a` on. -/
def since (accepted : List K) (a : K) : Nat := accepted.countP fun time => decide (a ≤ time)

variable {accepted : List K} {a b now : K}

/-- One acceptance more counts from its time on. -/
theorem since_concat : since (accepted ++ [now]) a = since accepted a + if a ≤ now then 1 else 0 := by
  rw [since, since, List.countP_append, List.countP_singleton]
  simp

/-- One acceptance more counts between the times around it. -/
theorem within_concat : within (accepted ++ [now]) a b =
    within accepted a b + if a ≤ now ∧ now ≤ b then 1 else 0 := by
  rw [within, within, List.countP_append, List.countP_singleton]
  simp

/-- Up to a time that no accepted call exceeds, a window is open to the right. -/
theorem within_eq_since (h : ∀ time ∈ accepted, time ≤ b) : within accepted a b = since accepted a := by
  refine List.countP_congr fun time htime => ?_
  simp [h time htime]

/-- Nothing was accepted after the last accepted call. -/
theorem since_eq_zero (h : ∀ time ∈ accepted, time < a) : since accepted a = 0 := by
  rw [since, List.countP_eq_zero]
  intro time htime
  simpa using h time htime

end counts

/-! ## The bucket -/

variable [Field K] [LinearOrder K] (rate burst : K)

/-- A full bucket. -/
def full (now : K) : Bucket K := ⟨burst, now⟩

/-- The tokens at a time, with what flowed in since the last refill; a time before it adds none. -/
def available (bucket : Bucket K) (now : K) : K :=
  min (bucket.tokens + max (now - bucket.refilled) 0 * rate) burst

/-- Takes a token, if there is one. -/
def take (bucket : Bucket K) (now : K) : Bool × Bucket K :=
  if 1 ≤ bucket.available rate burst now then
    (true, ⟨bucket.available rate burst now - 1, now⟩)
  else (false, ⟨bucket.available rate burst now, now⟩)

/-- What one more call makes of the bucket and of the times of the accepted calls so far. -/
def step (state : Bucket K × List K) (now : K) : Bucket K × List K :=
  let taken := state.1.take rate burst now
  (taken.2, if taken.1 then state.2 ++ [now] else state.2)

/-- The bucket after calls at these times, and the times of those accepted, in order. -/
def run (bucket : Bucket K) (times : List K) : Bucket K × List K :=
  times.foldl (step rate burst) (bucket, [])

/-! ## The potential -/

/-- What holds of a bucket and the times of the accepted calls, after calls in order of time. -/
structure Sound (bucket : Bucket K) (accepted : List K) : Prop where
  nonneg : 0 ≤ bucket.tokens
  le_burst : bucket.tokens ≤ burst
  past : ∀ time ∈ accepted, time ≤ bucket.refilled
  /-- From any time on, the calls accepted and the tokens left were a full bucket or flowed in. -/
  supply : ∀ a ≤ bucket.refilled,
    bucket.tokens + since accepted a ≤ burst + (bucket.refilled - a) * rate
  /-- From some time on they are all of it. -/
  spent : ∃ a ≤ bucket.refilled,
    burst + (bucket.refilled - a) * rate ≤ bucket.tokens + since accepted a
  /-- No window took more than a full bucket and what flowed in during it. -/
  windows : ∀ a b, a ≤ b → (within accepted a b : K) ≤ burst + (b - a) * rate

namespace Sound

variable [IsStrictOrderedRing K] {rate burst} {bucket : Bucket K} {accepted : List K} {now : K}

/-- A full bucket, before any call. -/
theorem full (hrate : 0 ≤ rate) (hburst : 0 ≤ burst) (now : K) :
    Sound rate burst (full burst now) [] where
  nonneg := hburst
  le_burst := le_refl burst
  past := by simp
  supply := by
    intro a ha
    have := mul_nonneg (sub_nonneg.mpr ha) hrate
    simp only [since, List.countP_nil, Nat.cast_zero, Bucket.full] at *
    linarith
  spent := ⟨now, le_refl now, by simp [since, Bucket.full]⟩
  windows := by
    intro a b hab
    have := mul_nonneg (sub_nonneg.mpr hab) hrate
    simp only [within, List.countP_nil, Nat.cast_zero]
    linarith

/-- The same once the bucket was refilled. -/
theorem refill (h : Sound rate burst bucket accepted) (hrate : 0 ≤ rate) (hburst : 0 ≤ burst)
    (hnow : bucket.refilled ≤ now) :
    Sound rate burst ⟨bucket.available rate burst now, now⟩ accepted := by
  have hflow : bucket.available rate burst now =
      min (bucket.tokens + (now - bucket.refilled) * rate) burst := by
    rw [available, max_eq_left (sub_nonneg.mpr hnow)]
  have hadded := mul_nonneg (sub_nonneg.mpr hnow) hrate
  have hle : bucket.available rate burst now ≤ bucket.tokens + (now - bucket.refilled) * rate := by
    rw [hflow]
    exact min_le_left _ _
  refine ⟨?_, ?_, fun time htime => (h.past time htime).trans hnow, fun a ha => ?_, ?_, h.windows⟩
  · rw [hflow]
    exact le_min (by linarith [h.nonneg]) hburst
  · rw [hflow]
    exact min_le_right _ _
  · by_cases hbefore : a ≤ bucket.refilled
    · have hsupply := h.supply a hbefore
      have hsplit : (now - a) * rate =
          (now - bucket.refilled) * rate + (bucket.refilled - a) * rate := by ring
      show bucket.available rate burst now + (since accepted a : K) ≤ burst + (now - a) * rate
      linarith
    · -- A window that starts after the last call took nothing yet.
      have hzero : since accepted a = 0 := since_eq_zero fun time htime =>
        lt_of_le_of_lt (h.past time htime) (not_le.mp hbefore)
      have hrest := mul_nonneg (sub_nonneg.mpr ha) hrate
      have hfull : bucket.available rate burst now ≤ burst := by
        rw [hflow]
        exact min_le_right _ _
      show bucket.available rate burst now + (since accepted a : K) ≤ burst + (now - a) * rate
      rw [hzero, Nat.cast_zero]
      linarith
  · by_cases hclamp : burst ≤ bucket.tokens + (now - bucket.refilled) * rate
    · -- The bucket is full now, so the window starts now.
      refine ⟨now, le_refl now, ?_⟩
      have hcount : (0 : K) ≤ (since accepted now : K) := Nat.cast_nonneg _
      show burst + (now - now) * rate ≤ bucket.available rate burst now + (since accepted now : K)
      rw [hflow, min_eq_right hclamp, sub_self, zero_mul]
      linarith
    · obtain ⟨a, ha, hspent⟩ := h.spent
      refine ⟨a, ha.trans hnow, ?_⟩
      have hsplit : (now - a) * rate =
          (now - bucket.refilled) * rate + (bucket.refilled - a) * rate := by ring
      show burst + (now - a) * rate ≤ bucket.available rate burst now + (since accepted a : K)
      rw [hflow, min_eq_left (le_of_not_ge hclamp)]
      linarith

/-- The same once a token was taken. -/
theorem spend {tokens : K} (h : Sound rate burst ⟨tokens, now⟩ accepted) (hrate : 0 ≤ rate)
    (htoken : 1 ≤ tokens) : Sound rate burst ⟨tokens - 1, now⟩ (accepted ++ [now]) := by
  have hsince : ∀ a ≤ now, (since (accepted ++ [now]) a : K) = since accepted a + 1 := by
    intro a ha
    rw [since_concat, if_pos ha, Nat.cast_add, Nat.cast_one]
  have hle : tokens ≤ burst := h.le_burst
  refine ⟨sub_nonneg.mpr htoken, by show tokens - 1 ≤ burst; linarith, ?_, fun a ha => ?_, ?_, ?_⟩
  · intro time htime
    rcases List.mem_append.mp htime with htime | htime
    · exact h.past time htime
    · rw [List.mem_singleton.mp htime]
  · have hsupply : tokens + since accepted a ≤ burst + (now - a) * rate := h.supply a ha
    show tokens - 1 + (since (accepted ++ [now]) a : K) ≤ burst + (now - a) * rate
    rw [hsince a ha]
    linarith
  · obtain ⟨a, ha, hspent⟩ := h.spent
    replace hspent : burst + (now - a) * rate ≤ tokens + since accepted a := hspent
    refine ⟨a, ha, ?_⟩
    show burst + (now - a) * rate ≤ tokens - 1 + (since (accepted ++ [now]) a : K)
    rw [hsince a ha]
    linarith
  · intro a b hab
    by_cases hin : a ≤ now ∧ now ≤ b
    · -- All that was accepted since the window began is in it, and the tokens left are not negative.
      have hall : within accepted a b = since accepted a :=
        within_eq_since fun time htime => (h.past time htime).trans hin.2
      have hsupply : tokens + since accepted a ≤ burst + (now - a) * rate := h.supply a hin.1
      have hlater := mul_le_mul_of_nonneg_right (sub_le_sub_right hin.2 a) hrate
      rw [within_concat, if_pos hin, hall, Nat.cast_add, Nat.cast_one]
      linarith
    · rw [within_concat, if_neg hin, Nat.add_zero]
      exact h.windows a b hab

/-- One call keeps the potential. -/
theorem step (h : Sound rate burst bucket accepted) (hrate : 0 ≤ rate) (hburst : 0 ≤ burst)
    (hnow : bucket.refilled ≤ now) :
    Sound rate burst (step rate burst (bucket, accepted) now).1
      (Bucket.step rate burst (bucket, accepted) now).2 := by
  have hfilled := h.refill hrate hburst hnow
  unfold Bucket.step take
  by_cases htoken : 1 ≤ bucket.available rate burst now
  · simp only [htoken, if_true]
    exact hfilled.spend hrate htoken
  · simp only [htoken, if_false]
    exact hfilled

/-- **A refusal is forced.** If the bucket refuses a call, one more accepted call would be too many
for some window that ends with it. -/
theorem refused (h : Sound rate burst bucket accepted) (hrate : 0 ≤ rate) (hburst : 0 ≤ burst)
    (hnow : bucket.refilled ≤ now) (hrefused : (bucket.take rate burst now).1 = false) :
    ∃ a ≤ now, burst + (now - a) * rate < within accepted a now + 1 := by
  have hfilled := h.refill hrate hburst hnow
  obtain ⟨a, ha, hspent⟩ := hfilled.spent
  replace hspent : burst + (now - a) * rate ≤
    bucket.available rate burst now + since accepted a := hspent
  refine ⟨a, ha, ?_⟩
  have hnone : bucket.available rate burst now < 1 := by
    by_contra htoken
    simp [take, not_lt.mp htoken] at hrefused
  rw [within_eq_since hfilled.past]
  linarith

end Sound

/-! ## Runs -/

variable {rate burst}

/-- After a call, the bucket was refilled at its time. -/
theorem refilled_step (state : Bucket K × List K) (now : K) :
    (step rate burst state now).1.refilled = now := by
  show (state.1.take rate burst now).2.refilled = now
  unfold take
  split <;> rfl

/-- The bucket was last refilled at the last call. -/
theorem refilled_run_le {bucket : Bucket K} {times : List K} {now : K} (hcall : times ≠ [])
    (hlater : ∀ time ∈ times, time ≤ now) : (run rate burst bucket times).1.refilled ≤ now := by
  obtain ⟨before, last, rfl⟩ := (List.eq_nil_or_concat times).resolve_left hcall
  rw [List.concat_eq_append, run, List.foldl_append, List.foldl_cons, List.foldl_nil,
    refilled_step]
  exact hlater last (by simp)

variable [IsStrictOrderedRing K]

/-- Any sorted requests keep the bucket sound, by induction on them. -/
theorem sound_foldl (hrate : 0 ≤ rate) (hburst : 0 ≤ burst) (times : List K) :
    ∀ state : Bucket K × List K, Sound rate burst state.1 state.2 →
      (state.1.refilled :: times).Pairwise (· ≤ ·) →
        Sound rate burst (times.foldl (step rate burst) state).1
          (times.foldl (step rate burst) state).2 := by
  induction times with
  | nil => exact fun state h _ => h
  | cons now times ih =>
    intro state h hsorted
    obtain ⟨hfirst, hrest⟩ := List.pairwise_cons.mp hsorted
    refine ih _ (h.step hrate hburst (hfirst now List.mem_cons_self)) ?_
    rw [refilled_step]
    exact hrest

/-- A full bucket stays full until the first call, whenever it was made. -/
theorem available_full (hrate : 0 ≤ rate) (start now : K) :
    (full burst start).available rate burst now = burst := by
  have := mul_nonneg (le_max_right (now - start) 0) hrate
  rw [available, full, min_eq_right]
  linarith

/-- A full bucket has no memory of when it was made. -/
theorem run_full_cons (hrate : 0 ≤ rate) (start now : K) (times : List K) :
    run rate burst (full burst start) (now :: times) =
      run rate burst (full burst now) (now :: times) := by
  simp only [run, List.foldl_cons, step, take, available_full hrate]

/-- **The potential over a run.** Whatever calls come to a full bucket in order of time, it is kept. -/
theorem sound_run (hrate : 0 ≤ rate) (hburst : 0 ≤ burst) (start : K) {times : List K}
    (hsorted : times.Pairwise (· ≤ ·)) :
    Sound rate burst (run rate burst (full burst start) times).1
      (run rate burst (full burst start) times).2 := by
  cases times with
  | nil => exact Sound.full hrate hburst start
  | cons now times =>
    rw [run_full_cons hrate]
    refine sound_foldl hrate hburst (now :: times) (full burst now, [])
      (Sound.full hrate hburst now) (List.pairwise_cons.mpr ⟨?_, hsorted⟩)
    intro time htime
    rcases List.mem_cons.mp htime with rfl | htime
    · exact le_refl _
    · exact (List.pairwise_cons.mp hsorted).1 time htime

end Bucket
