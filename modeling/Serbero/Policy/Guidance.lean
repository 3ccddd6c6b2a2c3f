import Serbero.Policy.Next

/-! # Guidance follows the actor's own word

When the decision table guides the parties, for whatever answers a judge gave. The decision to
guide toward "the payment arrived" reads the seller's own receipt and nothing of the buyer's
payment answers; the one toward "the payment was not sent" needs the buyer's own statement. -/

namespace Serbero

/-- Everything of a turn's decision but the facts and the plan, which come from the answers. -/
structure Situation where
  phase : Phase
  history : History
  buyerLanguage : String
  sellerLanguage : String
  buyerRounds : Nat
  sellerRounds : Nat
  maxRounds : Nat
  buyerHeard : Bool
  sellerHeard : Bool
  held : Bool
  handoffGrace : Nat

/-- The turn of a situation, with the facts the thresholds project from the answers and the plan
computed from these facts. -/
def Situation.turn (situation : Situation) (thresholds : Thresholds) (languages : List String)
    (answers : Answers) : Turn :=
  let facts := Facts.fromAnswers answers thresholds languages
  { phase := situation.phase
    facts := facts
    buyerLanguage := situation.buyerLanguage
    sellerLanguage := situation.sellerLanguage
    validatedLanguages := thresholds.validatedLanguages
    buyerRounds := situation.buyerRounds
    sellerRounds := situation.sellerRounds
    maxRounds := situation.maxRounds
    asked := situation.history.asked
    next := nextQuestions facts situation.history
    buyerHeard := situation.buyerHeard
    sellerHeard := situation.sellerHeard
    held := situation.held
    handoffGrace := situation.handoffGrace }

/-! ## The rows that guide -/

namespace Turn

/-- Gathered facts never guide. -/
theorem factsGathered_ne_guide (turn : Turn) (path : Path) :
    turn.factsGathered ≠ some (.guide path) := by
  unfold factsGathered
  split
  · simp
  · split
    · simp
    · split <;> simp

/-- A path is guided exactly when both languages are validated. -/
theorem guideOrHold_eq_guide_iff (turn : Turn) (path found : Path) :
    turn.guideOrHold path = some (.guide found) ↔ turn.validated = true ∧ found = path := by
  unfold guideOrHold
  by_cases hvalidated : turn.validated = true
  · rw [if_pos hvalidated, Option.some.injEq, Action.guide.injEq]
    simp [hvalidated, eq_comm]
  · rw [if_neg hvalidated]
    exact iff_of_false (turn.factsGathered_ne_guide found) fun h => hvalidated h.1

/-- The rows after guidance never guide. -/
theorem decideAfterGuidance_ne_guide (turn : Turn) (path : Path) :
    turn.decideAfterGuidance ≠ .guide path := by
  have courtesy : courtesyOrWait turn.next ≠ .guide path := by
    unfold courtesyOrWait
    split <;> simp
  unfold decideAfterGuidance
  split
  · simp
  split
  · simp
  split
  · simp
  split
  · simp
  split
  · next action haction =>
    split at haction
    · rintro rfl
      exact turn.factsGathered_ne_guide path haction
    · exact absurd haction (by simp)
  · exact courtesy

/-- Nothing sends the turn to a human before the guidance rows, and it still gathers facts. -/
def ReachesGuidance (turn : Turn) : Prop :=
  turn.phase = .gathering ∧ turn.anyParty (·.wantsHuman) = false ∧ turn.facts.fraud = false ∧
    turn.facts.outsideScope = false

/-- Guidance comes from the gathering rows, below the rows toward a human. -/
theorem decide_eq_guide_iff_gathering (turn : Turn) (path : Path) :
    turn.decide = .guide path ↔
      turn.ReachesGuidance ∧ turn.decideGathering = .guide path := by
  unfold decide ReachesGuidance
  by_cases hhuman : turn.anyParty (·.wantsHuman) = true
  · rw [if_pos hhuman]
    exact iff_of_false (by simp) (by simp [hhuman])
  rw [if_neg hhuman]
  by_cases hfraud : turn.facts.fraud = true
  · rw [if_pos hfraud]
    exact iff_of_false (by simp) (by simp [hfraud])
  rw [if_neg hfraud]
  by_cases hscope : turn.facts.outsideScope = true
  · rw [if_pos hscope]
    exact iff_of_false (by simp) (by simp [hscope])
  rw [if_neg hscope]
  cases hphase : turn.phase with
  | guiding =>
    refine iff_of_false ?_ (by simp)
    split <;> simp
  | gathering =>
    rw [if_neg (by simp), if_neg (by simp)]
    simp [hhuman, hfraud, hscope]

/-- **The guidance toward "the payment arrived".** The table reaches its guidance rows, the
seller's receipt is certain enough, and both languages are validated. -/
theorem decide_eq_guide_arrived_iff (turn : Turn) :
    turn.decide = .guide .paymentArrived ↔
      turn.ReachesGuidance ∧ turn.facts.sellerReceivedForGuide = true ∧
        turn.validated = true := by
  rw [decide_eq_guide_iff_gathering]
  refine and_congr_right fun _ => ?_
  constructor
  · intro h
    unfold decideGathering at h
    split at h
    · next action haction =>
      split at haction
      · next harrived =>
        rw [h, guideOrHold_eq_guide_iff] at haction
        exact ⟨harrived, haction.1⟩
      · exact absurd haction (by simp)
    · split at h
      · next action haction =>
        -- The other row can only guide toward the other path.
        split at haction
        · rw [h, guideOrHold_eq_guide_iff] at haction
          exact absurd haction.2 (by simp)
        · exact absurd haction (by simp)
      · exact absurd h (turn.decideAfterGuidance_ne_guide _)
  · rintro ⟨harrived, hvalidated⟩
    have hguide := (turn.guideOrHold_eq_guide_iff .paymentArrived .paymentArrived).mpr
      ⟨hvalidated, rfl⟩
    unfold decideGathering
    rw [if_pos harrived, hguide]

/-- The guidance toward "the payment was not sent" needs the buyer's own statement. -/
theorem buyerNotSentForGuide_of_decide {turn : Turn}
    (h : turn.decide = .guide .paymentNotSent) : turn.facts.buyerNotSentForGuide = true := by
  rw [decide_eq_guide_iff_gathering] at h
  have h := h.2
  unfold decideGathering at h
  split at h
  · next action haction =>
    split at haction
    · rw [h, guideOrHold_eq_guide_iff] at haction
      exact absurd haction.2 (by simp)
    · exact absurd haction (by simp)
  · split at h
    · next action haction =>
      split at haction
      · next hnotSent => exact hnotSent
      · exact absurd haction (by simp)
    · exact absurd h (turn.decideAfterGuidance_ne_guide _)

end Turn

/-! ## Answers that differ only on the buyer's payment -/

/-- Two answer maps agree on every question but these. -/
def AgreeExcept (ids : List String) (answers answers' : Answers) : Prop :=
  ∀ id, id ∉ ids → answers[id]? = answers'[id]?

/-- **The buyer's payment answers never decide for the seller.** Whether the parties are guided
toward "the payment arrived" is the same for answers that differ only on the buyer's payment. -/
theorem guide_arrived_congr (situation : Situation) (thresholds : Thresholds)
    (languages : List String) {answers answers' : Answers}
    (agree : AgreeExcept ["buyer_payment", "buyer_details"] answers answers') :
    (situation.turn thresholds languages answers).decide = .guide .paymentArrived ↔
      (situation.turn thresholds languages answers').decide = .guide .paymentArrived := by
  have own : ∀ party, Facts.partyFacts answers party thresholds languages =
      Facts.partyFacts answers' party thresholds languages := by
    intro party
    refine Facts.partyFacts_congr (fun suffix hsuffix => agree _ ?_) thresholds languages
    revert suffix
    cases party <;> decide
  have receipt : Facts.probability answers "seller_receipt" =
      Facts.probability answers' "seller_receipt" :=
    Facts.probability_congr (agree _ (by decide))
  have topic : Facts.probability answers "dispute_topic" =
      Facts.probability answers' "dispute_topic" :=
    Facts.probability_congr (agree _ (by decide))
  have signal : Facts.pYes answers "fraud_signal" = Facts.pYes answers' "fraud_signal" :=
    Facts.pYes_congr (agree _ (by decide))
  have fraud : (Facts.fromAnswers answers thresholds languages).fraud =
      (Facts.fromAnswers answers' thresholds languages).fraud := by
    simp only [Facts.fromAnswers, signal]
  have scope : (Facts.fromAnswers answers thresholds languages).outsideScope =
      (Facts.fromAnswers answers' thresholds languages).outsideScope := by
    simp only [Facts.fromAnswers, receipt, topic]
  have received : (Facts.fromAnswers answers thresholds languages).sellerReceivedForGuide =
      (Facts.fromAnswers answers' thresholds languages).sellerReceivedForGuide := by
    simp only [Facts.fromAnswers, receipt]
  have party : ∀ party, (Facts.fromAnswers answers thresholds languages).party party =
      (Facts.fromAnswers answers' thresholds languages).party party := by
    intro party
    cases party
    · exact own .buyer
    · exact own .seller
  simp only [Turn.decide_eq_guide_arrived_iff, Turn.ReachesGuidance, Turn.anyParty,
    Turn.validated, Situation.turn, fraud, scope, received, party]

/-- No party who wrote in the turn asked for a human. -/
def Facts.NobodyWantsHuman (facts : Facts) : Prop :=
  ∀ party own, facts.party party = some own → own.wantsHuman = false

/-- Nobody wants a human when no party does. -/
theorem Turn.anyParty_wantsHuman_eq_false_iff (turn : Turn) :
    turn.anyParty (·.wantsHuman) = false ↔ turn.facts.NobodyWantsHuman := by
  rw [Turn.anyParty, List.any_eq_false]
  constructor
  · intro h party own hown
    simpa [hown] using h party (Party.mem_both party)
  · intro h party _
    cases hown : turn.facts.party party with
    | none => simp
    | some own => simpa using h party own hown

/-- **Guidance follows the actor's own word.** For every answer map, threshold table and situation:
the parties are guided toward "the payment arrived" exactly when facts are still gathered, the
seller's receipt has the guide threshold's share, nobody asked for a human, nothing points to fraud
or outside the scope, and both languages are validated; changing the buyer's payment answers never
creates that guidance; and changing the seller's answers never creates the guidance toward "the
payment was not sent" unless the buyer's own statement has the guide threshold's share. -/
theorem guidance_follows_own_word (situation : Situation) (thresholds : Thresholds)
    (languages : List String) (answers : Answers) :
    ((situation.turn thresholds languages answers).decide = .guide .paymentArrived ↔
      situation.phase = .gathering ∧
        thresholds.guide ≤ Facts.probability answers "seller_receipt" "says_received" ∧
        (Facts.fromAnswers answers thresholds languages).NobodyWantsHuman ∧
        (Facts.fromAnswers answers thresholds languages).fraud = false ∧
        (Facts.fromAnswers answers thresholds languages).outsideScope = false ∧
        situation.buyerLanguage ∈ thresholds.validatedLanguages ∧
        situation.sellerLanguage ∈ thresholds.validatedLanguages) ∧
    (∀ answers', AgreeExcept ["buyer_payment", "buyer_details"] answers answers' →
      (situation.turn thresholds languages answers).decide ≠ .guide .paymentArrived →
      (situation.turn thresholds languages answers').decide ≠ .guide .paymentArrived) ∧
    (∀ answers', AgreeExcept ["seller_receipt", "seller_checked"] answers answers' →
      (situation.turn thresholds languages answers).decide ≠ .guide .paymentNotSent →
      (situation.turn thresholds languages answers').decide = .guide .paymentNotSent →
      thresholds.guide ≤ Facts.probability answers "buyer_payment" "says_not_sent") := by
  refine ⟨?_, ?_, ?_⟩
  · rw [Turn.decide_eq_guide_arrived_iff, Turn.ReachesGuidance,
      Turn.anyParty_wantsHuman_eq_false_iff]
    simp only [Situation.turn, Turn.validated, Bool.and_eq_true, List.contains_iff_mem]
    have received : (Facts.fromAnswers answers thresholds languages).sellerReceivedForGuide = true ↔
        thresholds.guide ≤ Facts.probability answers "seller_receipt" "says_received" :=
      decide_eq_true_iff
    rw [received]
    tauto
  · intro answers' agree hne
    rwa [Ne, ← guide_arrived_congr situation thresholds languages agree]
  · intro answers' agree _ hguide
    have stated := Turn.buyerNotSentForGuide_of_decide hguide
    rw [Facts.probability_congr (agree _ (by decide))]
    exact decide_eq_true_iff.mp stated

/-- A situation in which both parties were heard. -/
def heardSituation : Situation :=
  { phase := .gathering
    history := ⟨⟨[], []⟩, ⟨none, none, false, false⟩, ⟨none, none, false, false⟩⟩
    buyerLanguage := "en", sellerLanguage := "en", buyerRounds := 0, sellerRounds := 0
    maxRounds := 3, buyerHeard := true, sellerHeard := true, held := false, handoffGrace := 600 }

/-- A judge's threshold table. -/
def someThresholds : Thresholds :=
  { guide := 9 / 10, fact := 7 / 10, humanRequest := 1 / 2, fraud := 1 / 2, conflict := 1 / 2
    outsideScope := 1 / 2, validatedLanguages := ["en"] }

/-- The seller says the fiat arrived. -/
def receivedAnswers : Answers :=
  .ofList [("seller_receipt", Answer.choice (.ofList [("says_received", (1 : ℚ))]))]

/-- The guidance follows the seller's word, and not without it. -/
theorem guidance_follows_own_word_received :
    (heardSituation.turn someThresholds ["en"] receivedAnswers).decide = .guide .paymentArrived ∧
      (heardSituation.turn someThresholds ["en"] {}).decide ≠ .guide .paymentArrived := by
  have certain : someThresholds.guide ≤
      Facts.probability receivedAnswers "seller_receipt" "says_received" := by decide +kernel
  have honest : (Facts.fromAnswers receivedAnswers someThresholds ["en"]).fraud = false := by
    decide +kernel
  have inScope : (Facts.fromAnswers receivedAnswers someThresholds ["en"]).outsideScope = false := by
    decide +kernel
  have unguided : (heardSituation.turn someThresholds ["en"] {}).decide ≠
      .guide .paymentArrived := by decide +kernel
  refine ⟨(guidance_follows_own_word heardSituation someThresholds ["en"]
    receivedAnswers).1.mpr ⟨rfl, certain, ?_, honest, inScope, by decide, by decide⟩, ?_⟩
  · have silent : ∀ party, (Facts.fromAnswers receivedAnswers someThresholds ["en"]).party party =
        none := by decide +kernel
    intro party own hown
    exact absurd hown (by simp [silent])
  · exact (guidance_follows_own_word heardSituation someThresholds ["en"] {}).2.1 {}
      (fun _ _ => rfl) unguided

end Serbero
