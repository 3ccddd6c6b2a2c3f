import Serbero.Judge.Answer

/-! # From judge answers to facts

The threshold projection of one turn's answers. A question that was not asked counts as stating
nothing, so a fact is never known by default. -/

namespace Serbero

/-- A provider's calibrated thresholds. -/
structure Thresholds where
  guide : ℚ
  fact : ℚ
  humanRequest : ℚ
  fraud : ℚ
  conflict : ℚ
  outsideScope : ℚ
  /-- Languages whose golden set passed for the judge. -/
  validatedLanguages : List String
  deriving DecidableEq, Repr

/-- What `Config::validate_judge` asks of a thresholds table: every value in (0, 1], and `guide`
and `fact` above one half. -/
structure Thresholds.Valid (thresholds : Thresholds) : Prop where
  guide_le : thresholds.guide ≤ 1
  fact_le : thresholds.fact ≤ 1
  humanRequest_pos : 0 < thresholds.humanRequest
  humanRequest_le : thresholds.humanRequest ≤ 1
  fraud_pos : 0 < thresholds.fraud
  fraud_le : thresholds.fraud ≤ 1
  conflict_pos : 0 < thresholds.conflict
  conflict_le : thresholds.conflict ≤ 1
  outsideScope_pos : 0 < thresholds.outsideScope
  outsideScope_le : thresholds.outsideScope ≤ 1
  half_lt_guide : 1 / 2 < thresholds.guide
  half_lt_fact : 1 / 2 < thresholds.fact

/-- A valid fact threshold is positive. -/
theorem Thresholds.Valid.fact_pos {thresholds : Thresholds} (valid : thresholds.Valid) :
    0 < thresholds.fact :=
  lt_trans (by decide +kernel) valid.half_lt_fact

/-- So is a valid guide threshold. -/
theorem Thresholds.Valid.guide_pos {thresholds : Thresholds} (valid : thresholds.Valid) :
    0 < thresholds.guide :=
  lt_trans (by decide +kernel) valid.half_lt_guide

/-- What a party's latest messages are mainly doing. -/
inductive MessageKind
  | answers
  | greeting
  | asksLanguage
  | notUnderstood
  | asksNextStep
  | other
  deriving DecidableEq, Repr

/-- Facts about one party's latest messages; present only for a party who wrote in this turn. -/
structure PartyFacts where
  wantsHuman : Bool
  rejectsPath : Bool
  language : Option String
  messageKind : MessageKind
  deriving DecidableEq, Repr

/-- The facts of one turn. -/
structure Facts where
  buyerSent : Bool
  buyerNotSent : Bool
  buyerNotSentForGuide : Bool
  buyerHasDetails : Bool
  sellerReceived : Bool
  sellerReceivedForGuide : Bool
  sellerNotReceived : Bool
  sellerHasChecked : Bool
  conflict : Bool
  fraud : Bool
  outsideScope : Bool
  buyer : Option PartyFacts
  seller : Option PartyFacts
  deriving DecidableEq, Repr

namespace Facts

/-- Neither a sent nor a not-sent claim is known: ask the buyer. -/
def buyerPaymentUnknown (facts : Facts) : Bool := !facts.buyerSent && !facts.buyerNotSent

/-- Neither a received nor a not-received claim is known, and the seller has not objected to a
payment: ask the seller. -/
def sellerReceiptUnknown (facts : Facts) : Bool :=
  !facts.sellerReceived && !facts.sellerNotReceived && !facts.outsideScope

/-- The facts about one party. -/
def party (facts : Facts) : Party → Option PartyFacts
  | .buyer => facts.buyer
  | .seller => facts.seller

/-- The payment fact the party owes is unknown. -/
def paymentUnknown (facts : Facts) : Party → Bool
  | .buyer => facts.buyerPaymentUnknown
  | .seller => facts.sellerReceiptUnknown

end Facts

/-- Minimum share of the winning `<party>_language` option before the party's language changes. -/
def languageMinProbability : ℚ := 7 / 10

/-- Minimum confidence of `<party>_message_kind`; below it the messages are treated as answers. -/
def messageKindMinConfidence : ℚ := 1 / 2

/-- `dispute_topic` options that put a dispute outside payment confirmation. -/
def outsideScopeTopics : List String :=
  ["wrong_amount", "wrong_account_or_method", "technical_problem", "other"]

namespace Facts

/-- The share of one option in the answer to a question (0 when not asked). -/
def probability (answers : Answers) (id option : String) : ℚ :=
  match answers[id]? with
  | some answer => answer.share option
  | none => 0

/-- The probability of yes (0 when not asked, or not a yes-or-no question). -/
def pYes (answers : Answers) (id : String) : ℚ :=
  match answers[id]? with
  | some (.noul p) => p
  | _ => 0

/-- The message kind an answer stands for. -/
def kind (answer : Answer) : MessageKind :=
  let confident := answer.confidence.any fun c => decide (messageKindMinConfidence ≤ c)
  match answer.winner.filter fun _ => confident with
  | some "greeting" => .greeting
  | some "asks_language" => .asksLanguage
  | some "not_understood" => .notUnderstood
  | some "asks_next_step" => .asksNextStep
  | some "other" => .other
  | _ => .answers

/-- The facts about one party: `none` when its questions were not asked, that is, when the party
did not write in this turn. -/
def partyFacts (answers : Answers) (party : Party) (thresholds : Thresholds)
    (languages : List String) : Option PartyFacts :=
  match answers[party.name ++ "_message_kind"]? with
  | none => none
  | some messageKind =>
    let language :=
      answers[party.name ++ "_language"]?.bind fun answer =>
        answer.winner.bind fun winner =>
          if languages.contains winner && decide (languageMinProbability ≤ answer.share winner) then
            some winner
          else none
    some {
      wantsHuman := decide (thresholds.humanRequest ≤ pYes answers (party.name ++ "_wants_human"))
      rejectsPath := decide (thresholds.conflict ≤ pYes answers (party.name ++ "_rejects_path"))
      language := language
      messageKind := kind messageKind }

/-- Converts the answers of one turn into facts; `languages` are the enabled codes. -/
def fromAnswers (answers : Answers) (thresholds : Thresholds) (languages : List String) : Facts :=
  let buyerPayment := fun option => probability answers "buyer_payment" option
  let sellerReceipt := fun option => probability answers "seller_receipt" option
  let topicOutside := (outsideScopeTopics.map fun topic =>
    probability answers "dispute_topic" topic).sum
  { buyerSent := decide (thresholds.fact ≤ buyerPayment "says_sent")
    buyerNotSent := decide (thresholds.fact ≤ buyerPayment "says_not_sent")
    buyerNotSentForGuide := decide (thresholds.guide ≤ buyerPayment "says_not_sent")
    buyerHasDetails := decide (thresholds.fact ≤ pYes answers "buyer_details")
    sellerReceived := decide (thresholds.fact ≤ sellerReceipt "says_received")
    sellerReceivedForGuide := decide (thresholds.guide ≤ sellerReceipt "says_received")
    sellerNotReceived := decide (thresholds.fact ≤ sellerReceipt "says_not_received")
    sellerHasChecked := decide (thresholds.fact ≤ pYes answers "seller_checked")
    conflict := decide (thresholds.conflict ≤ pYes answers "claims_conflict")
    fraud := decide (thresholds.fraud ≤ pYes answers "fraud_signal")
    outsideScope :=
      decide (thresholds.outsideScope ≤ topicOutside) ||
        decide (thresholds.outsideScope ≤ sellerReceipt "says_received_with_problem")
    buyer := partyFacts answers .buyer thresholds languages
    seller := partyFacts answers .seller thresholds languages }

section congr

variable {answers answers' : Answers}

/-- Answers that agree on a question give each of its options the same share. -/
theorem probability_congr {id : String} (agree : answers[id]? = answers'[id]?) :
    probability answers id = probability answers' id := by
  funext option
  unfold probability
  rw [agree]

/-- Answers that agree on a question give yes the same probability. -/
theorem pYes_congr {id : String} (agree : answers[id]? = answers'[id]?) :
    pYes answers id = pYes answers' id := by
  unfold pYes
  rw [agree]

/-- Answers that agree on a party's own four questions give the same facts about the party. -/
theorem partyFacts_congr {party : Party}
    (agree : ∀ suffix ∈ ["_message_kind", "_language", "_wants_human", "_rejects_path"],
      answers[party.name ++ suffix]? = answers'[party.name ++ suffix]?)
    (thresholds : Thresholds) (languages : List String) :
    partyFacts answers party thresholds languages =
      partyFacts answers' party thresholds languages := by
  unfold partyFacts
  rw [agree "_message_kind" (by simp), agree "_language" (by simp),
    pYes_congr (agree "_wants_human" (by simp)), pYes_congr (agree "_rejects_path" (by simp))]

end congr

end Facts

end Serbero
