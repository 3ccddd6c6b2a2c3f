import Serbero.Policy.Decide
import Serbero.Policy.Timers

/-! # What an action rests on

The decision table reads the facts of a turn and its place in the session. Some of its actions show
a fact: whoever reads the answers of the turn again finds the reason why it was picked. -/

namespace Serbero

namespace Facts

/-- Some party who wrote in this turn meets the check. -/
def someParty (facts : Facts) (check : PartyFacts → Bool) : Bool :=
  Party.both.any fun party => (facts.party party).any check

/-- Nothing in the facts ends the mediation: nobody wants a human, no fraud, no other topic. -/
structure Calm (facts : Facts) : Prop where
  human : facts.someParty PartyFacts.wantsHuman = false
  fraud : facts.fraud = false
  scope : facts.outsideScope = false

/-- A path is open, or both payment facts are known. -/
def Gathered (facts : Facts) : Prop :=
  facts.sellerReceivedForGuide = true ∨ facts.buyerNotSentForGuide = true ∨
    (facts.buyerPaymentUnknown = false ∧ facts.sellerReceiptUnknown = false)

/-- What the facts say when a turn hands off for the reason. No turn hands off for a reason that
belongs to the timers, to an opening, or to a turn that was not judged. -/
def GroundsHandoff (facts : Facts) : HandoffReason → Prop
  | .humanRequested => facts.someParty PartyFacts.wantsHuman = true
  | .fraudSignal => facts.fraud = true
  | .outsideScope => facts.outsideScope = true
  | .selfResolutionStalled => facts.Calm ∧ facts.someParty PartyFacts.rejectsPath = true
  | .conflictingClaims =>
    facts.Calm ∧ facts.buyerSent = true ∧ facts.sellerNotReceived = true ∧ facts.conflict = true
  | .roundLimit => facts.Calm
  | .uncertain =>
    facts.Calm ∧ (facts.buyerPaymentUnknown = true ∨ facts.sellerReceiptUnknown = true)
  | .factsGathered => facts.Calm ∧ facts.Gathered
  | .unresponsive | .judgeUnavailable | .flood | .openingFailed => False

/-- What the facts say when a turn takes the action. -/
def Grounds (facts : Facts) : Action → Prop
  | .ask _ _ => facts.Calm
  | .handoff reason => facts.GroundsHandoff reason
  | .guide .paymentArrived => facts.Calm ∧ facts.sellerReceivedForGuide = true
  | .guide .paymentNotSent =>
    facts.Calm ∧ facts.buyerNotSentForGuide = true ∧ facts.sellerReceivedForGuide = false
  | .hold => facts.Calm ∧ facts.Gathered
  | .wait => facts.Calm

end Facts

/-- The action says that the facts are gathered. -/
def Action.gathers : Action → Bool
  | .hold | .handoff .factsGathered => true
  | _ => false

namespace Turn

/-- What the turn must have been for its table to pick the action. -/
structure Backs (turn : Turn) (action : Action) : Prop where
  grounds : turn.facts.Grounds action
  guiding : action = .handoff .selfResolutionStalled → turn.phase = .guiding
  heard : action.gathers = true → turn.buyerHeard = true ∧ turn.sellerHeard = true

variable {turn : Turn} {action : Action}

/-- Most actions show in the facts alone. -/
theorem Backs.of_grounds (h : turn.facts.Grounds action)
    (hstalled : action ≠ .handoff .selfResolutionStalled) (hgathers : action.gathers = false) :
    turn.Backs action where
  grounds := h
  guiding heq := absurd heq hstalled
  heard htrue := by
    rw [hgathers] at htrue
    cases htrue

/-- Once the facts are gathered the table holds, hands off, or waits. -/
theorem backs_factsGathered (hcalm : turn.facts.Calm) (hgathered : turn.facts.Gathered)
    (h : turn.factsGathered = some action) : turn.Backs action := by
  unfold factsGathered at h
  split at h
  · cases h
  next hheard =>
  simp only [Bool.not_eq_true', Bool.not_eq_false, Bool.and_eq_true] at hheard
  split at h
  · cases h
    exact .of_grounds hcalm (by simp) rfl
  split at h
  · cases h
    exact ⟨⟨hcalm, hgathered⟩, fun heq => by simp at heq, fun _ => hheard⟩
  · cases h
    exact ⟨⟨hcalm, hgathered⟩, fun heq => by simp at heq, fun _ => hheard⟩

/-- A guide is backed by its path's facts, and a hold by the lack of a validated language. -/
theorem backs_guideOrHold (path : Path) (hcalm : turn.facts.Calm)
    (hgathered : turn.facts.Gathered)
    (hpath : turn.validated = true → turn.facts.Grounds (.guide path))
    (h : turn.guideOrHold path = some action) : turn.Backs action := by
  unfold guideOrHold at h
  split at h
  · next hvalidated =>
    cases h
    exact .of_grounds (hpath hvalidated) (by simp) rfl
  · exact backs_factsGathered hcalm hgathered h

/-- After a guidance the facts are in conflict, unknown for good, gathered again, or need no action.
-/
theorem backs_decideAfterGuidance (hcalm : turn.facts.Calm) :
    turn.Backs turn.decideAfterGuidance := by
  have courtesy : turn.Backs (courtesyOrWait turn.next) := by
    unfold courtesyOrWait
    split <;> exact .of_grounds hcalm (by simp) rfl
  unfold decideAfterGuidance
  split
  · next hconflict =>
    simp only [conflictWithBothSidesAnswered, Bool.and_eq_true] at hconflict
    obtain ⟨⟨⟨⟨hsent, hreceived⟩, hclaims⟩, -⟩, -⟩ := hconflict
    exact .of_grounds ⟨hcalm, hsent, hreceived, hclaims⟩ (by simp) rfl
  split
  · exact .of_grounds hcalm (by simp) rfl
  split
  · exact .of_grounds hcalm (by simp) rfl
  split
  · next hunknown =>
    simp only [unknownAfterBothVariants, Bool.or_eq_true, Bool.and_eq_true] at hunknown
    exact .of_grounds ⟨hcalm, hunknown.imp And.left And.left⟩ (by simp) rfl
  split
  · next found hfound =>
    split at hfound
    · next hknown =>
      simp only [Bool.and_eq_true, Bool.not_eq_true'] at hknown
      exact backs_factsGathered hcalm (Or.inr (Or.inr hknown)) hfound
    · cases hfound
  · exact courtesy

/-- While gathering, each decision is backed by the facts that brought it. -/
theorem backs_decideGathering (hcalm : turn.facts.Calm) : turn.Backs turn.decideGathering := by
  unfold decideGathering
  split
  · next found hfound =>
    split at hfound
    · next hreceived =>
      exact backs_guideOrHold .paymentArrived hcalm (Or.inl hreceived)
        (fun _ => ⟨hcalm, hreceived⟩) hfound
    · cases hfound
  next hnone =>
  split
  · next found hfound =>
    split at hfound
    · next hnotSent =>
      refine backs_guideOrHold .paymentNotSent hcalm (Or.inr (Or.inl hnotSent))
        (fun hvalidated => ?_) hfound
      refine ⟨hcalm, hnotSent, ?_⟩
      -- With both languages validated, the seller's word would have been taken first.
      by_contra hreceived
      rw [Bool.not_eq_false] at hreceived
      rw [if_pos hreceived, guideOrHold, if_pos hvalidated] at hnone
      cases hnone
    · cases hfound
  · exact backs_decideAfterGuidance hcalm

/-- **Every action of the table shows in the turn it was picked for.** -/
theorem backs_decide (turn : Turn) : turn.Backs turn.decide := by
  unfold decide
  split
  · next hhuman => exact .of_grounds hhuman (by simp) rfl
  next hhuman =>
  split
  · next hfraud => exact .of_grounds hfraud (by simp) rfl
  next hfraud =>
  split
  · next hscope => exact .of_grounds hscope (by simp) rfl
  next hscope =>
  have hcalm : turn.facts.Calm :=
    ⟨(Bool.not_eq_true _).mp hhuman, (Bool.not_eq_true _).mp hfraud, (Bool.not_eq_true _).mp hscope⟩
  split
  · next hrejects => exact ⟨⟨hcalm, hrejects.2⟩, fun _ => hrejects.1, fun heq => by cases heq⟩
  split
  · exact .of_grounds hcalm (by simp) rfl
  · exact backs_decideGathering hcalm

end Turn

/-! ## Reminders -/

/-- A clock asks for a reminder when its question is overdue, unanswered, and the first to be so. -/
theorem of_response_remind {clock : PartyClock} {now timeout : Int}
    (h : response clock now timeout = .remind) :
    ∃ asked, clock.questionAt = some asked ∧ clock.remindedAt = none ∧
      saturatingAdd asked timeout ≤ now := by
  unfold response at h
  cases hasked : clock.questionAt with
  | none => simp [hasked] at h
  | some asked =>
    simp only [hasked] at h
    split at h
    · cases h
    cases hreminded : clock.remindedAt with
    | none =>
      simp only [hreminded] at h
      split at h
      · next hdue => exact ⟨asked, rfl, rfl, hdue⟩
      · cases h
    | some reminded =>
      simp only [hreminded] at h
      repeat' split at h
      all_goals cases h

namespace Clocks

variable {clocks : Clocks}

/-- The walk over the parties picks those whose clocks ask for it. -/
theorem of_checkParties_remind {timeout : Int} {remind parties picked : List Party}
    (h : clocks.checkParties timeout remind parties = .remind picked) :
    ∃ more, picked = remind ++ more ∧ more.Sublist parties ∧
      ∀ party ∈ more, response (clocks.party party) clocks.now timeout = .remind := by
  induction parties generalizing remind with
  | nil =>
    unfold checkParties at h
    split at h
    · cases h
    · cases h
      exact ⟨[], (List.append_nil _).symm, .refl _, fun party hparty => absurd hparty List.not_mem_nil⟩
  | cons party rest ih =>
    unfold checkParties at h
    cases hresponse : response (clocks.party party) clocks.now timeout with
    | unresponsive => simp [hresponse] at h
    | waiting =>
      rw [hresponse] at h
      obtain ⟨more, heq, hsublist, hmore⟩ := ih h
      exact ⟨more, heq, hsublist.cons _, hmore⟩
    | remind =>
      rw [hresponse] at h
      obtain ⟨more, heq, hsublist, hmore⟩ := ih h
      refine ⟨party :: more, by rw [heq, List.append_assoc]; rfl, hsublist.cons_cons _, ?_⟩
      intro other hother
      rcases List.mem_cons.mp hother with rfl | hlater
      · exact hresponse
      · exact hmore other hlater

/-- Who is reminded, each once: the parties with an overdue question and no reminder. -/
theorem of_check_remind {timeouts : Timeouts} {picked : List Party}
    (h : clocks.check timeouts = .remind picked) :
    picked.Nodup ∧ ∀ party ∈ picked, ∃ asked, (clocks.party party).questionAt = some asked ∧
      (clocks.party party).remindedAt = none := by
  unfold check at h
  repeat' split at h
  all_goals try cases h
  obtain ⟨more, heq, hsublist, hmore⟩ := of_checkParties_remind h
  rw [List.nil_append] at heq
  subst heq
  refine ⟨hsublist.nodup (by decide), fun party hparty => ?_⟩
  obtain ⟨asked, hasked, hnone, -⟩ := of_response_remind (hmore party hparty)
  exact ⟨asked, hasked, hnone⟩

end Clocks

end Serbero
