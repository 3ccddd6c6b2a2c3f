import Mathlib.Data.Rat.Cast.Order
import Serbero.Lib.Bucket

/-! # The rate limit of a channel

Thirty messages a minute, and a burst of sixty. The code counts tokens in floating point; here they
are exact, so what is proved is what the limiter is meant to allow. -/

namespace Serbero

/-- Sustained messages per minute per channel. -/
def ratePerMinute : ℚ := 30

/-- The burst allowed. -/
def rateBurst : ℚ := 60

/-- The tokens of a channel at its last refill; times are seconds. -/
abbrev TokenBucket : Type := Bucket ℚ

namespace TokenBucket

/-- The bucket of a new channel. -/
def new (now : ℚ) : TokenBucket :=
  { tokens := rateBurst
    refilled := now }

/-- Whether a message at this time passes, and the bucket then. -/
def take (bucket : TokenBucket) (now : ℚ) : Bool × TokenBucket :=
  let elapsed := max (now - bucket.refilled) 0
  let tokens := min (bucket.tokens + elapsed * ratePerMinute / 60) rateBurst
  if 1 ≤ tokens then (true, ⟨tokens - 1, now⟩) else (false, ⟨tokens, now⟩)

/-- The bucket after messages at these times, and the times of those that passed. -/
def run (start : ℚ) (times : List ℚ) : TokenBucket × List ℚ :=
  times.foldl (fun state now =>
    let taken := take state.1 now
    (taken.2, if taken.1 then state.2 ++ [now] else state.2)) (new start, [])

/-- A token flows in every two seconds. -/
theorem take_eq (bucket : TokenBucket) (now : ℚ) :
    take bucket now = Bucket.take (1 / 2) rateBurst bucket now := by
  have hrate : ∀ elapsed : ℚ, elapsed * ratePerMinute / 60 = elapsed * (1 / 2) := by
    intro elapsed
    rw [ratePerMinute]
    ring
  have havailable : min (bucket.tokens + max (now - bucket.refilled) 0 * ratePerMinute / 60)
      rateBurst = bucket.available (1 / 2) rateBurst now := by
    rw [Bucket.available, hrate]
  unfold take Bucket.take
  dsimp only
  rw [havailable]

/-- The bucket is the general one at half a token a second. -/
theorem run_eq (start : ℚ) (times : List ℚ) :
    run start times = Bucket.run (1 / 2) rateBurst (Bucket.full rateBurst start) times := by
  unfold run Bucket.run Bucket.step
  simp only [take_eq]
  rfl

/-- **The rate limit.** For messages at times that do not go back, the tokens of a new bucket stay
between none and the burst; no window of any length lets through more than the burst and one message
every two seconds; and a message is dropped only if it would be one too many for some window that
ends with it. -/
theorem rate_limit (start : ℚ) (times : List ℚ) (hsorted : times.Pairwise (· ≤ ·)) :
    let (bucket, passed) := run start times
    (0 ≤ bucket.tokens ∧ bucket.tokens ≤ rateBurst) ∧
      (∀ begin length, 0 ≤ length →
        (Bucket.within passed begin (begin + length) : ℚ) ≤ rateBurst + length / 2) ∧
      ∀ now, (∀ time ∈ times, time ≤ now) → (take bucket now).1 = false →
        ∃ length, 0 ≤ length ∧
          rateBurst + length / 2 < Bucket.within passed (now - length) now + 1 := by
  have hrate : (0 : ℚ) ≤ 1 / 2 := by norm_num
  have hburst : (0 : ℚ) ≤ rateBurst := by norm_num [rateBurst]
  have hsound := Bucket.sound_run hrate hburst start hsorted
  have hrefilled : ∀ now, times ≠ [] → (∀ time ∈ times, time ≤ now) →
      (run start times).1.refilled ≤ now := by
    intro now hcall hlater
    rw [run_eq]
    exact Bucket.refilled_run_le hcall hlater
  -- A new bucket is full, so the first take is never refused.
  have hnew : ∀ now, times = [] → (take (run start times).1 now).1 = true := by
    rintro now rfl
    have hfull : (1 : ℚ) ≤ (Bucket.full rateBurst start).available (1 / 2) rateBurst now := by
      rw [Bucket.available_full hrate]
      norm_num [rateBurst]
    rw [run_eq, take_eq]
    show (Bucket.take (1 / 2) rateBurst (Bucket.full rateBurst start) now).1 = true
    rw [Bucket.take, if_pos hfull]
  rw [← run_eq] at hsound
  generalize run start times = state at *
  obtain ⟨bucket, passed⟩ := state
  refine ⟨⟨hsound.nonneg, hsound.le_burst⟩, fun begin length hlength => ?_,
    fun now hlater hrefused => ?_⟩
  · have hwindow := hsound.windows begin (begin + length) (by linarith)
    linarith
  · have hcall : times ≠ [] := fun hnone => by simp [hnew now hnone] at hrefused
    rw [take_eq] at hrefused
    -- A refusal shows a window that the passed messages fill up to less than one.
    obtain ⟨begin, hbegin, hwindow⟩ :=
      hsound.refused hrate hburst (hrefilled now hcall hlater) hrefused
    refine ⟨now - begin, sub_nonneg.mpr hbegin, ?_⟩
    rw [sub_sub_cancel]
    linarith

/-- Sixty messages at once pass, and the next one is dropped. -/
theorem rate_limit_burst :
    let (bucket, passed) := run 0 (List.replicate 60 0)
    (0 ≤ bucket.tokens ∧ bucket.tokens ≤ rateBurst) ∧
      (Bucket.within passed 0 (0 + 2) : ℚ) ≤ rateBurst + 2 / 2 ∧
      ∃ length, 0 ≤ length ∧
        rateBurst + length / 2 < Bucket.within passed (0 - length) 0 + 1 := by
  obtain ⟨htokens, hwindow, hrefused⟩ :=
    rate_limit 0 (List.replicate 60 0) (by decide +kernel)
  exact ⟨htokens, hwindow 0 2 (by norm_num), hrefused 0 (by decide +kernel) (by decide +kernel)⟩

end TokenBucket

end Serbero
