import Serbero.Policy.Action

/-! # Timers

Pure functions of a session's clocks. Timers never call the judge. -/

namespace Serbero

/-- Unix times of one party's last question, last message and reminder. -/
structure PartyClock where
  /-- When the last question template was sent to the party. -/
  questionAt : Option Int
  /-- When the party last wrote. -/
  repliedAt : Option Int
  /-- When the party got its reminder. -/
  remindedAt : Option Int
  deriving DecidableEq, Repr

/-- Everything the timers read. -/
structure Clocks where
  phase : Phase
  now : Int
  buyer : PartyClock
  seller : PartyClock
  /-- When the guidance was sent, while guiding. -/
  guidedAt : Option Int
  /-- When the session started holding for the parties. -/
  heldAt : Option Int
  deriving DecidableEq, Repr

/-- The `[mediation]` durations the timers read, in seconds. -/
structure Timeouts where
  response : Nat
  selfResolution : Nat
  handoffGrace : Nat
  deriving DecidableEq, Repr

/-- What the timer task does for a session. -/
inductive Timer
  | handoff (reason : HandoffReason)
  | remind (parties : List Party)
  | nothing
  deriving DecidableEq, Repr

/-- Turns with too many messages from a party before the session hands off with `flood`. -/
def floodStrikes : Nat := 2

/-- What one party's clock asks for. -/
inductive Response
  | waiting
  | remind
  | unresponsive
  deriving DecidableEq, Repr

/-- One party's response timer. The reminder is sent once per session: a later unanswered question
hands off at its own timeout. -/
def response (clock : PartyClock) (now timeout : Int) : Response :=
  match clock.questionAt with
  | none => .waiting
  | some questionAt =>
    if clock.repliedAt.any fun replied => replied ≥ questionAt then .waiting
    else
      match clock.remindedAt with
      | some reminded =>
        if reminded ≥ questionAt then
          if now ≥ saturatingAdd reminded timeout then .unresponsive else .waiting
        else if now ≥ saturatingAdd questionAt timeout then .unresponsive
        else .waiting
      | none => if now ≥ saturatingAdd questionAt timeout then .remind else .waiting

namespace Clocks

/-- One party's clock. -/
def party (clocks : Clocks) : Party → PartyClock
  | .buyer => clocks.buyer
  | .seller => clocks.seller

/-- The parties walked in order: the first unresponsive one ends the walk. -/
def checkParties (clocks : Clocks) (timeout : Int) (remind : List Party) : List Party → Timer
  | [] => if remind.isEmpty then .nothing else .remind remind
  | party :: rest =>
    match response (clocks.party party) clocks.now timeout with
    | .unresponsive => .handoff .unresponsive
    | .remind => checkParties clocks timeout (remind ++ [party]) rest
    | .waiting => checkParties clocks timeout remind rest

/-- The timer action for a session. A hand-off wins over reminders. -/
def check (clocks : Clocks) (timeouts : Timeouts) : Timer :=
  if clocks.phase = .guiding then
    if clocks.guidedAt.any fun at' => clocks.now ≥ saturatingAdd at' (secs timeouts.selfResolution)
    then .handoff .selfResolutionStalled
    else .nothing
  else if clocks.heldAt.any fun at' => clocks.now ≥ saturatingAdd at' (secs timeouts.handoffGrace)
  then .handoff .factsGathered
  else clocks.checkParties (secs timeouts.response) [] Party.both

/-- The timers know nothing of floods. -/
theorem checkParties_ne_flood (clocks : Clocks) (timeout : Int) (remind parties : List Party) :
    clocks.checkParties timeout remind parties ≠ .handoff .flood := by
  induction parties generalizing remind with
  | nil =>
    unfold checkParties
    split <;> simp
  | cons party rest ih =>
    unfold checkParties
    split
    · simp
    · exact ih _
    · exact ih _

/-- The timers hand nothing off for a flood. -/
theorem check_ne_flood (clocks : Clocks) (timeouts : Timeouts) :
    clocks.check timeouts ≠ .handoff .flood := by
  unfold check
  repeat' split
  all_goals first | exact clocks.checkParties_ne_flood _ _ _ | simp

end Clocks

/-! ## Which clocks ever fire -/

/-- The party was asked and did not write since. -/
def PartyClock.awaiting (clock : PartyClock) : Bool :=
  clock.questionAt.any fun asked => !clock.repliedAt.any fun replied => decide (replied ≥ asked)

/-- A saturated sum is a 64-bit number. -/
theorem saturatingAdd_le (a b : Int) : saturatingAdd a b ≤ i64Max := by
  unfold saturatingAdd i64Max i64Min
  omega

/-- A clock that awaits nothing stays quiet. -/
theorem response_of_not_awaiting {clock : PartyClock} (h : clock.awaiting = false)
    (now timeout : Int) : response clock now timeout = .waiting := by
  unfold response
  cases hq : clock.questionAt with
  | none => rfl
  | some asked =>
    simp only [PartyClock.awaiting, hq, Option.any_some, Bool.not_eq_false'] at h
    exact if_pos h

/-- A clock that awaits a reply speaks up in the end. -/
theorem response_of_awaiting {clock : PartyClock} (h : clock.awaiting = true) (timeout : Int) :
    response clock i64Max timeout ≠ .waiting := by
  unfold response
  cases hq : clock.questionAt with
  | none => simp [PartyClock.awaiting, hq] at h
  | some asked =>
    simp only [PartyClock.awaiting, hq, Option.any_some, Bool.not_eq_true'] at h
    simp only [h, Bool.false_eq_true, if_false]
    have due : ∀ at' : Int, i64Max ≥ saturatingAdd at' timeout :=
      fun at' => saturatingAdd_le at' timeout
    cases clock.remindedAt with
    | none => simp [due asked]
    | some reminded =>
      simp only [if_pos (due reminded), if_pos (due asked)]
      split <;> simp

namespace Clocks

/-- Something will end the wait without another message of a party: while guiding, the guidance's
timeout; else the hold's grace or a question that awaits its answer. -/
def Armed (clocks : Clocks) : Prop :=
  if clocks.phase = .guiding then clocks.guidedAt.isSome = true
  else clocks.heldAt.isSome = true ∨ ∃ party, (clocks.party party).awaiting = true

instance (clocks : Clocks) : Decidable clocks.Armed :=
  inferInstanceAs (Decidable (if clocks.phase = .guiding then clocks.guidedAt.isSome = true
    else clocks.heldAt.isSome = true ∨ ∃ party, (clocks.party party).awaiting = true))

/-- The walk over parties that all keep quiet changes nothing. -/
theorem checkParties_of_waiting {clocks : Clocks} {timeout : Int} {parties : List Party}
    (quiet : ∀ party ∈ parties, response (clocks.party party) clocks.now timeout = .waiting)
    (remind : List Party) :
    clocks.checkParties timeout remind parties =
      if remind.isEmpty then .nothing else .remind remind := by
  induction parties with
  | nil => rfl
  | cons party rest ih =>
    rw [checkParties, quiet party (by simp)]
    exact ih fun other hother => quiet other (by simp [hother])

/-- The walk acts when a party is to be reminded already, or some party's clock speaks up. -/
theorem checkParties_ne_nothing {clocks : Clocks} {timeout : Int} {parties : List Party}
    {remind : List Party}
    (loud : remind ≠ [] ∨
      ∃ party ∈ parties, response (clocks.party party) clocks.now timeout ≠ .waiting) :
    clocks.checkParties timeout remind parties ≠ .nothing := by
  induction parties generalizing remind with
  | nil =>
    rcases loud with h | ⟨_, h, _⟩
    · simp [checkParties, h]
    · exact absurd h (by simp)
  | cons party rest ih =>
    rw [checkParties]
    cases hr : response (clocks.party party) clocks.now timeout with
    | unresponsive => simp
    | remind => exact ih (Or.inl (by simp))
    | waiting =>
      refine ih (loud.imp_right ?_)
      rintro ⟨loudParty, hmem, hloud⟩
      rcases List.mem_cons.mp hmem with rfl | h
      · exact absurd hr hloud
      · exact ⟨loudParty, h, hloud⟩

/-- **The timers fire exactly for armed clocks.** However long the configured times are, an armed
session is acted on at some later moment; one that is not armed never is. -/
theorem armed_iff (clocks : Clocks) (timeouts : Timeouts) :
    clocks.Armed ↔ ∃ now, { clocks with now := now }.check timeouts ≠ .nothing := by
  have due : ∀ at' span : Int, i64Max ≥ saturatingAdd at' span := saturatingAdd_le
  unfold Armed check
  by_cases hguiding : clocks.phase = .guiding
  · simp only [if_pos hguiding]
    cases hg : clocks.guidedAt with
    | none => simp
    | some at' =>
      refine iff_of_true rfl ⟨i64Max, ?_⟩
      simp [due]
  · simp only [if_neg hguiding]
    constructor
    · rintro (hheld | ⟨party, hparty⟩)
      · obtain ⟨at', hat⟩ := Option.isSome_iff_exists.mp hheld
        refine ⟨i64Max, ?_⟩
        simp [hat, due]
      · refine ⟨i64Max, ?_⟩
        split
        · simp
        · refine checkParties_ne_nothing (Or.inr ⟨party, Party.mem_both party, ?_⟩)
          have := response_of_awaiting hparty (secs timeouts.response)
          cases party <;> exact this
    · rintro ⟨now, hfires⟩
      by_contra hquiet
      push Not at hquiet
      have hheld : clocks.heldAt = none := by simpa using hquiet.1
      simp only [hheld, Option.any_none, Bool.false_eq_true, if_false] at hfires
      refine hfires ?_
      rw [checkParties_of_waiting]
      · rfl
      · intro party _
        have := response_of_not_awaiting (by simpa using hquiet.2 party) now (secs timeouts.response)
        cases party <;> exact this

end Clocks

/-! ## Floods -/

/-- A turn with more messages from a party than `max_messages_per_turn` is one flood strike. -/
def overLimit (messagesInTurn maxMessagesPerTurn : Nat) : Bool := messagesInTurn > maxMessagesPerTurn

/-- Flooding "repeatedly" means `floodStrikes` turns. -/
def isFlood (strikes : Nat) : Bool := strikes ≥ floodStrikes

end Serbero
