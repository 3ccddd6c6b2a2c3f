import Serbero.Judge.Facts

/-! # The turn question set

The full set (case facts, the questions about each party's latest messages, and the question asked
while guiding) is built once from the enabled languages; each turn sends a subset of it. What a
question says goes to the provider only; here a question is its id and its options. -/

namespace Serbero

namespace TurnQuestions

/-- Asked for each party with new messages. -/
def perPartyQuestions : List String := ["message_kind", "language", "wants_human"]

/-- Asked for each party with new messages while the session is `guiding`. -/
def guidingQuestion : String := "rejects_path"

/-- The language option for a language that is not enabled. -/
def languageOther : String := "other"

/-- The language option for messages that do not tell. -/
def languageUnknown : String := "unknown"

/-- The id of a question about one party. -/
def key (party : Party) (suffix : String) : String := party.name ++ "_" ++ suffix

/-- What follows `start` in a text that begins with it. -/
def strip (start text : String) : Option String :=
  if start.toList <+: text.toList then some (String.ofList (text.toList.drop start.length)) else none

/-- The party and the question of a per-party id; the other ids that begin with a party's name are
case facts. -/
def splitParty (id : String) : Option (Party × String) :=
  Party.both.findSome? fun party =>
    (strip (party.name ++ "_") id).bind fun suffix =>
      if perPartyQuestions.contains suffix || suffix == guidingQuestion then some (party, suffix)
      else none

/-- Facts read from the whole transcript. -/
def caseFacts : List (String × Question) :=
  [("buyer_payment", .choice ["says_sent", "says_not_sent", "not_stated"]),
    ("buyer_details", .noul),
    ("seller_receipt", .choice
      ["says_received", "says_received_with_problem", "says_not_received", "not_stated"]),
    ("seller_checked", .noul),
    ("claims_conflict", .noul),
    ("fraud_signal", .noul),
    ("dispute_topic", .choice
      ["payment_not_confirmed", "wrong_amount", "wrong_account_or_method",
        "counterpart_unresponsive", "technical_problem", "other", "not_yet_clear"])]

/-- The options of `<party>_language`: the enabled codes, then the two that name none of them. -/
def languageOptions (languages : List String) : List String :=
  languages ++ [languageOther, languageUnknown]

/-- The options of `<party>_message_kind`. -/
def messageKindOptions : List String :=
  ["answers", "greeting", "asks_language", "not_understood", "asks_next_step", "other"]

/-- Questions about one party's latest messages. -/
def perParty (party : Party) (languages : List String) : List (String × Question) :=
  [(key party "message_kind", .choice messageKindOptions),
    (key party "language", .choice (languageOptions languages)),
    (key party "wants_human", .noul)]

/-- Asked only while the session is `guiding`. -/
def rejectsPath : Question := .noul

/-- Every question any turn may ask, by id. -/
def questionList (languages : List String) : List (String × Question) :=
  caseFacts ++ Party.both.flatMap fun party =>
    perParty party languages ++ [(key party guidingQuestion, rejectsPath)]

/-- The full turn question set for one list of enabled languages; `version` is its identifier, a
hash of the rendered questions. -/
def new (version : String) (languages : List String) : QuestionSet :=
  { version := version
    questions := .ofList (questionList languages) }

/-- Whether a turn asks a question: a case fact always, a per-party one of the parties with new
messages, and whether they reject the way forward only while guiding. -/
def asks (withNewMessages : List Party) (guiding : Bool) (id : String) : Bool :=
  match splitParty id with
  | none => true
  | some (party, suffix) =>
    withNewMessages.contains party && (suffix != guidingQuestion || guiding)

/-- The questions for one turn, always under the full set's identifier. -/
def forTurn (all : QuestionSet) (withNewMessages : List Party) (guiding : Bool) :
    QuestionSet :=
  { version := all.version
    questions := all.questions.filter fun id _ => asks withNewMessages guiding id }

/-- Each party's own questions are in the full set. -/
theorem mem_questionList_of_perParty {languages : List String} (party : Party)
    {entry : String × Question} (h : entry ∈ perParty party languages) :
    entry ∈ questionList languages :=
  List.mem_append_right _
    (List.mem_flatMap.mpr ⟨party, Party.mem_both party, List.mem_append_left _ h⟩)

/-- The ids of the full set do not depend on the languages. -/
theorem map_fst_questionList (languages : List String) :
    (questionList languages).map Prod.fst = (questionList []).map Prod.fst := rfl

/-- No two questions of the full set share an id. -/
theorem pairwise_questionList (languages : List String) :
    (questionList languages).Pairwise fun a b => ¬compare a.1 b.1 = .eq := by
  have hids : ((questionList []).map Prod.fst).Pairwise fun a b => ¬compare a b = .eq := by
    decide +kernel
  rw [← map_fst_questionList languages, List.pairwise_map] at hids
  exact hids

/-- The full set holds exactly the questions it was built from. -/
theorem getElem?_new {version : String} {languages : List String} {id : String}
    {question : Question} :
    (new version languages).questions[id]? = some question ↔
      (id, question) ∈ questionList languages := by
  have hof : ∀ {found : Question}, (id, found) ∈ questionList languages →
      (new version languages).questions[id]? = some found := fun hmem =>
    Std.TreeMap.getElem?_ofList_of_mem Std.ReflCmp.compare_self (pairwise_questionList languages) hmem
  refine ⟨fun h => ?_, hof⟩
  by_cases hid : ((questionList languages).map Prod.fst).contains id = true
  · obtain ⟨entry, hmem, rfl⟩ := List.mem_map.mp (List.contains_iff_mem.mp hid)
    rw [hof hmem, Option.some.injEq] at h
    rw [← h]
    exact hmem
  · have hnone : (new version languages).questions[id]? = none :=
      Std.TreeMap.getElem?_ofList_of_contains_eq_false (Bool.eq_false_iff.mpr hid)
    rw [hnone] at h
    cases h

/-- **What a turn asks.** The questions of the full set that it keeps. -/
theorem getElem?_forTurn {all : QuestionSet} {withNewMessages : List Party} {guiding : Bool}
    {id : String} {question : Question} :
    (forTurn all withNewMessages guiding).questions[id]? = some question ↔
      all.questions[id]? = some question ∧ asks withNewMessages guiding id = true := by
  rw [forTurn, Std.TreeMap.getElem?_filter', Option.filter_eq_some_iff]

/-- A party's own id is taken apart into the party and its question. -/
theorem splitParty_key {party : Party} {suffix : String}
    (hsuffix : suffix ∈ perPartyQuestions ++ [guidingQuestion]) :
    splitParty (key party suffix) = some (party, suffix) := by
  revert suffix
  cases party <;> decide +kernel

/-- A party's own question is asked when the party wrote, and the guiding one while guiding. -/
theorem asks_key {withNewMessages : List Party} {guiding : Bool} {party : Party} {suffix : String}
    (hsuffix : suffix ∈ perPartyQuestions ++ [guidingQuestion]) :
    asks withNewMessages guiding (key party suffix) =
      (withNewMessages.contains party && (suffix != guidingQuestion || guiding)) := by
  rw [asks, splitParty_key hsuffix]

/-- The ids that the facts about a party are read from. -/
theorem key_eq (party : Party) (suffix : String) : key party suffix = party.name ++ ("_" ++ suffix) :=
  String.append_assoc

end TurnQuestions

/-- The language codes with a template catalog. -/
def embeddedCodes : List String := ["en", "es", "pt"]

/-- What `Config::validate_mediation` asks of the enabled languages. -/
structure EnabledLanguages (languages : List String) : Prop where
  nonempty : languages ≠ []
  nodup : languages.Nodup
  embedded : ∀ code ∈ languages, code ∈ embeddedCodes

/-! ## What the facts are read from -/

/-- The facts about a party's payment claim, each beside the case question it is read from. -/
def Facts.paymentReadings : Party → List (String × (Facts → Bool))
  | .buyer =>
    [("buyer_payment", Facts.buyerSent), ("buyer_payment", Facts.buyerNotSent),
      ("buyer_payment", Facts.buyerNotSentForGuide), ("buyer_details", Facts.buyerHasDetails)]
  | .seller =>
    [("seller_receipt", Facts.sellerReceived), ("seller_receipt", Facts.sellerReceivedForGuide),
      ("seller_receipt", Facts.sellerNotReceived), ("seller_checked", Facts.sellerHasChecked)]

/-- What is known from a party's latest messages, each beside its question. -/
def Facts.ownReadings (party : Party) : List (String × (Facts → Bool)) :=
  [("message_kind", fun facts => (facts.party party).isSome),
    ("language", fun facts => (facts.party party).any (·.language.isSome)),
    ("wants_human", fun facts => (facts.party party).any (·.wantsHuman)),
    ("rejects_path", fun facts => (facts.party party).any (·.rejectsPath))].map fun reading =>
      (TurnQuestions.key party reading.1, reading.2)

/-- Every fact, beside the questions any of which makes it known. -/
def Facts.readings : List (List String × (Facts → Bool)) :=
  (Party.both.flatMap fun party => paymentReadings party ++ ownReadings party).map
      (fun reading => ([reading.1], reading.2)) ++
    [(["claims_conflict"], Facts.conflict), (["fraud_signal"], Facts.fraud),
      (["dispute_topic", "seller_receipt"], Facts.outsideScope)]

/-- **Questions asked and facts read agree**, for one set of questions, the parties that wrote and
the phase, on one map of answers. -/
structure Facts.Agrees (asked : QuestionSet) (wrote : List Party) (guiding : Bool)
    (answers : Answers) (thresholds : Thresholds) (languages : List String) : Prop where
  /-- There are facts for a party exactly when it wrote. -/
  wrote (party : Party) :
    ((fromAnswers answers thresholds languages).party party).isSome = true ↔ party ∈ wrote
  /-- The facts about a party are those of any answers that agree on the party's questions. -/
  own (party : Party) (answers' : Answers) :
    (∀ id suffix, TurnQuestions.splitParty id = some (party, suffix) →
      answers'[id]? = answers[id]?) →
      (fromAnswers answers' thresholds languages).party party =
        (fromAnswers answers thresholds languages).party party
  /-- A payment fact is that of any answers that agree on its case question. -/
  payment (party : Party) :
    ∀ reading ∈ paymentReadings party, ∀ answers' : Answers,
      answers'[reading.1]? = answers[reading.1]? →
        reading.2 (fromAnswers answers' thresholds languages) =
          reading.2 (fromAnswers answers thresholds languages)
  /-- Only while guiding does a party reject the way forward. -/
  rejects (party : Party) (own : PartyFacts) :
    (fromAnswers answers thresholds languages).party party = some own →
      own.rejectsPath = true → guiding = true
  /-- A fact none of whose questions was asked is not known. -/
  unasked : ∀ reading ∈ readings, (∀ id ∈ reading.1, asked.questions[id]? = none) →
    reading.2 (fromAnswers answers thresholds languages) = false
  /-- The language selected is an enabled one that was offered. -/
  language (party : Party) (own : PartyFacts) (code : String) :
    (fromAnswers answers thresholds languages).party party = some own →
      own.language = some code →
        code ∈ languages ∧
          (∃ options, asked.questions[TurnQuestions.key party "language"]? =
            some (.choice options) ∧ code ∈ options) ∧
          code ≠ TurnQuestions.languageOther ∧ code ≠ TurnQuestions.languageUnknown

namespace Facts

variable {answers : Answers} {thresholds : Thresholds} {languages : List String}

/-- Without an answer every option has no probability. -/
theorem probability_of_none {id : String} (h : answers[id]? = none) (option : String) :
    probability answers id option = 0 := by
  rw [probability, h]

/-- Without an answer a yes has none. -/
theorem pYes_of_none {id : String} (h : answers[id]? = none) : pYes answers id = 0 := by
  rw [pYes, h]

/-- The facts about one party are read from its four questions. -/
theorem party_fromAnswers (party : Party) :
    (fromAnswers answers thresholds languages).party party =
      partyFacts answers party thresholds languages := by
  cases party <;> rfl

/-- There are facts about a party exactly when the kind of its messages was answered. -/
theorem isSome_partyFacts {party : Party} :
    (partyFacts answers party thresholds languages).isSome =
      answers[TurnQuestions.key party "message_kind"]?.isSome := by
  simp only [TurnQuestions.key_eq, String.reduceAppend, partyFacts]
  cases answers[party.name ++ "_message_kind"]? <;> rfl

/-- What the facts about a party hold when there are some. -/
theorem partyFacts_eq_some {party : Party} {own : PartyFacts}
    (h : partyFacts answers party thresholds languages = some own) :
    own.wantsHuman = decide (thresholds.humanRequest ≤
        pYes answers (TurnQuestions.key party "wants_human")) ∧
      own.rejectsPath = decide (thresholds.conflict ≤
        pYes answers (TurnQuestions.key party "rejects_path")) ∧
      ∀ code, own.language = some code →
        ∃ answer, answers[TurnQuestions.key party "language"]? = some answer ∧
          answer.winner = some code ∧ code ∈ languages := by
  simp only [TurnQuestions.key_eq, String.reduceAppend]
  rw [partyFacts] at h
  split at h
  · cases h
  · rw [← Option.some.inj h]
    refine ⟨rfl, rfl, fun code hcode => ?_⟩
    obtain ⟨answer, hanswer, hwinner⟩ := Option.bind_eq_some_iff.mp hcode
    obtain ⟨winner, hwinner, hkept⟩ := Option.bind_eq_some_iff.mp hwinner
    split at hkept
    · next henabled =>
      obtain ⟨henabled, -⟩ := (Bool.and_eq_true _ _).mp henabled
      rw [Option.some.injEq] at hkept
      rw [hkept] at hwinner henabled
      exact ⟨answer, hanswer, hwinner, List.contains_iff_mem.mp henabled⟩
    · cases hkept

/-- A payment fact whose question has no answer is not known. -/
theorem payment_of_unanswered (valid : thresholds.Valid) {party : Party}
    {reading : String × (Facts → Bool)} (h : reading ∈ paymentReadings party)
    (hnone : answers[reading.1]? = none) :
    reading.2 (fromAnswers answers thresholds languages) = false := by
  have hfact := valid.fact_pos
  have hguide := valid.guide_pos
  cases party with
  | buyer =>
    simp only [paymentReadings, List.mem_cons, List.not_mem_nil, or_false] at h
    rcases h with rfl | rfl | rfl | rfl <;>
      simp [fromAnswers, probability_of_none hnone, pYes_of_none hnone, hfact, hguide]
  | seller =>
    simp only [paymentReadings, List.mem_cons, List.not_mem_nil, or_false] at h
    rcases h with rfl | rfl | rfl | rfl <;>
      simp [fromAnswers, probability_of_none hnone, pYes_of_none hnone, hfact, hguide]

/-- What is known from a party's latest messages has an answer of its own. -/
theorem own_of_unanswered (valid : thresholds.Valid) {party : Party}
    {reading : String × (Facts → Bool)} (h : reading ∈ ownReadings party)
    (hnone : answers[reading.1]? = none) :
    reading.2 (fromAnswers answers thresholds languages) = false := by
  simp only [ownReadings, List.map_cons, List.map_nil, List.mem_cons, List.not_mem_nil,
    or_false] at h
  cases hown : partyFacts answers party thresholds languages with
  | none => rcases h with rfl | rfl | rfl | rfl <;> simp only [party_fromAnswers, hown] <;> rfl
  | some own =>
    obtain ⟨hwants, hrejects, hlanguage⟩ := partyFacts_eq_some hown
    rcases h with rfl | rfl | rfl | rfl
    · simp only [party_fromAnswers, isSome_partyFacts, hnone, Option.isSome_none]
    · simp only [party_fromAnswers, hown, Option.any_some, Option.isSome_eq_false_iff,
        Option.isNone_iff_eq_none, Option.eq_none_iff_forall_not_mem]
      intro code hcode
      obtain ⟨answer, hanswer, -⟩ := hlanguage code hcode
      rw [hnone] at hanswer
      cases hanswer
    · simp [party_fromAnswers, hown, hwants, pYes_of_none hnone, valid.humanRequest_pos]
    · simp [party_fromAnswers, hown, hrejects, pYes_of_none hnone, valid.conflict_pos]

/-- **Nothing by default.** A fact none of whose questions has an answer is not known. -/
theorem readings_of_unanswered (valid : thresholds.Valid)
    {reading : List String × (Facts → Bool)} (h : reading ∈ readings)
    (hnone : ∀ id ∈ reading.1, answers[id]? = none) :
    reading.2 (fromAnswers answers thresholds languages) = false := by
  rcases List.mem_append.mp h with hparty | hcase
  · obtain ⟨single, hsingle, rfl⟩ := List.mem_map.mp hparty
    obtain ⟨party, -, hsingle⟩ := List.mem_flatMap.mp hsingle
    have hnone := hnone single.1 List.mem_cons_self
    rcases List.mem_append.mp hsingle with hpayment | hown
    · exact payment_of_unanswered valid hpayment hnone
    · exact own_of_unanswered valid hown hnone
  · simp only [List.mem_cons, List.not_mem_nil, or_false] at hcase
    rcases hcase with rfl | rfl | rfl
    · simp [fromAnswers, pYes_of_none (hnone _ List.mem_cons_self), valid.conflict_pos]
    · simp [fromAnswers, pYes_of_none (hnone _ List.mem_cons_self), valid.fraud_pos]
    · have htopic := hnone "dispute_topic" (by simp)
      have hreceipt := hnone "seller_receipt" (by simp)
      simp [fromAnswers, outsideScopeTopics, probability_of_none htopic,
        probability_of_none hreceipt, valid.outsideScope_pos]

/-- A payment fact is read from the answer to its own question only. -/
theorem payment_congr {answers' : Answers} {party : Party} {reading : String × (Facts → Bool)}
    (h : reading ∈ paymentReadings party) (agree : answers'[reading.1]? = answers[reading.1]?) :
    reading.2 (fromAnswers answers' thresholds languages) =
      reading.2 (fromAnswers answers thresholds languages) := by
  cases party with
  | buyer =>
    simp only [paymentReadings, List.mem_cons, List.not_mem_nil, or_false] at h
    rcases h with rfl | rfl | rfl | rfl <;>
      simp only [fromAnswers, probability_congr agree, pYes_congr agree]
  | seller =>
    simp only [paymentReadings, List.mem_cons, List.not_mem_nil, or_false] at h
    rcases h with rfl | rfl | rfl | rfl <;>
      simp only [fromAnswers, probability_congr agree, pYes_congr agree]

end Facts

section agree

variable {version : String} {languages : List String} {wrote : List Party} {guiding : Bool}
  {answers : Answers} {thresholds : Thresholds}

/-- What a turn asks of the party whose own question it is. -/
theorem TurnQuestions.getElem?_forTurn_key {party : Party} {suffix : String} {question : Question}
    (hquestion : (key party suffix, question) ∈ questionList languages)
    (hsuffix : suffix ∈ perPartyQuestions ++ [guidingQuestion]) :
    (forTurn (new version languages) wrote guiding).questions[key party suffix]? = some question ↔
      party ∈ wrote ∧ (suffix ≠ guidingQuestion ∨ guiding = true) := by
  rw [getElem?_forTurn, getElem?_new, and_iff_right hquestion, asks_key hsuffix]
  simp

/-- **Questions asked and facts read agree.** On every answer map that fits the questions of a turn,
for every list of languages the configuration accepts, whoever wrote and in either phase. -/
theorem facts_agree_with_questions (enabled : EnabledLanguages languages) (valid : thresholds.Valid)
    (checked : checkAnswers
      (TurnQuestions.forTurn (TurnQuestions.new version languages) wrote guiding) answers = .ok ()) :
    Facts.Agrees (TurnQuestions.forTurn (TurnQuestions.new version languages) wrote guiding) wrote
      guiding answers thresholds languages := by
  set asked := TurnQuestions.forTurn (TurnQuestions.new version languages) wrote guiding
  -- An answer is to a question the turn asks, and so to one of the full set that it keeps.
  have kept : ∀ {id : String} {answer : Answer}, answers[id]? = some answer →
      ∃ question, (TurnQuestions.new version languages).questions[id]? = some question ∧
        TurnQuestions.asks wrote guiding id = true ∧ asked.questions[id]? = some question := by
    intro id answer hanswer
    obtain ⟨question, hquestion, -⟩ := exists_question_of_checkAnswers checked hanswer
    obtain ⟨hall, hasks⟩ := TurnQuestions.getElem?_forTurn.mp hquestion
    exact ⟨question, hall, hasks, hquestion⟩
  refine
    { wrote := fun party => ?_
      own := fun party answers' agree => ?_
      payment := fun party reading hreading answers' agree => Facts.payment_congr hreading agree
      rejects := fun party own hown hrejects => ?_
      unasked := fun reading hreading hunasked => ?_
      language := fun party own code hown hcode => ?_ }
  · rw [Facts.party_fromAnswers, Facts.isSome_partyFacts]
    constructor
    · intro h
      obtain ⟨answer, hanswer⟩ := Option.isSome_iff_exists.mp h
      obtain ⟨question, -, hasks, -⟩ := kept hanswer
      rw [TurnQuestions.asks_key (by decide)] at hasks
      exact List.contains_iff_mem.mp ((Bool.and_eq_true _ _).mp hasks).1
    · intro hwrote
      have hquestion : asked.questions[TurnQuestions.key party "message_kind"]? =
          some (.choice TurnQuestions.messageKindOptions) :=
        (TurnQuestions.getElem?_forTurn_key
          (TurnQuestions.mem_questionList_of_perParty party (by simp [TurnQuestions.perParty]))
          (by decide)).mpr ⟨hwrote, Or.inl (by decide)⟩
      obtain ⟨answer, hanswer⟩ := exists_answer_of_checkAnswers checked hquestion
      rw [hanswer]
      rfl
  · rw [Facts.party_fromAnswers, Facts.party_fromAnswers]
    refine Facts.partyFacts_congr ?_ thresholds languages
    have split : ∀ suffix ∈ TurnQuestions.perPartyQuestions ++ [TurnQuestions.guidingQuestion],
        answers'[TurnQuestions.key party suffix]? = answers[TurnQuestions.key party suffix]? := by
      intro suffix hsuffix
      exact agree _ suffix (TurnQuestions.splitParty_key hsuffix)
    simpa [TurnQuestions.perPartyQuestions, TurnQuestions.guidingQuestion, TurnQuestions.key_eq,
      String.reduceAppend] using split
  · rw [Facts.party_fromAnswers] at hown
    obtain ⟨-, hknown, -⟩ := Facts.partyFacts_eq_some hown
    rw [hrejects, eq_comm, decide_eq_true_eq] at hknown
    cases hanswer : answers[TurnQuestions.key party "rejects_path"]? with
    | none =>
      rw [Facts.pYes_of_none hanswer] at hknown
      exact absurd valid.conflict_pos hknown.not_gt
    | some answer =>
      obtain ⟨question, -, hasks, -⟩ := kept hanswer
      rw [TurnQuestions.asks_key (by decide)] at hasks
      simpa [TurnQuestions.guidingQuestion] using ((Bool.and_eq_true _ _).mp hasks).2
  · refine Facts.readings_of_unanswered valid hreading fun id hid => ?_
    rw [Option.eq_none_iff_forall_not_mem]
    intro answer hanswer
    obtain ⟨question, -, -, hquestion⟩ := kept hanswer
    rw [hunasked id hid] at hquestion
    cases hquestion
  · rw [Facts.party_fromAnswers] at hown
    obtain ⟨-, -, hlanguage⟩ := Facts.partyFacts_eq_some hown
    obtain ⟨answer, hanswer, hwinner, hmem⟩ := hlanguage code hcode
    obtain ⟨question, hquestion, -, hasked⟩ := kept hanswer
    have hembedded := enabled.embedded code hmem
    refine ⟨hmem, ⟨TurnQuestions.languageOptions languages, ?_, List.mem_append_left _ hmem⟩, ?_, ?_⟩
    · have hoffered : (TurnQuestions.key party "language",
          Question.choice (TurnQuestions.languageOptions languages)) ∈
            TurnQuestions.questionList languages :=
        TurnQuestions.mem_questionList_of_perParty party (by simp [TurnQuestions.perParty])
      rw [hasked, ← hquestion]
      exact TurnQuestions.getElem?_new.mpr hoffered
    · rintro rfl
      exact absurd hembedded (by decide)
    · rintro rfl
      exact absurd hembedded (by decide)

end agree

/-- The answers of a turn in which the buyer alone wrote, in Spanish, while being guided. -/
def guidedBuyerAnswers : Answers :=
  .ofList [("buyer_payment", Answer.choice (.ofList [("says_sent", (1 / 50 : ℚ)),
        ("says_not_sent", 19 / 20), ("not_stated", 3 / 100)])),
    ("buyer_details", Answer.noul 0),
    ("seller_receipt", Answer.choice (.ofList [("says_received", (0 : ℚ)),
        ("says_received_with_problem", 0), ("says_not_received", 0), ("not_stated", 1)])),
    ("seller_checked", Answer.noul 0), ("claims_conflict", Answer.noul 0), ("fraud_signal", Answer.noul 0),
    ("dispute_topic", Answer.choice (.ofList [("payment_not_confirmed", (1 : ℚ)), ("wrong_amount", 0),
        ("wrong_account_or_method", 0), ("counterpart_unresponsive", 0), ("technical_problem", 0),
        ("other", 0), ("not_yet_clear", 0)])),
    ("buyer_message_kind", Answer.choice (.ofList [("answers", (1 : ℚ)), ("greeting", 0),
        ("asks_language", 0), ("not_understood", 0), ("asks_next_step", 0), ("other", 0)])),
    ("buyer_language", Answer.choice (.ofList [("en", (1 / 10 : ℚ)), ("es", 9 / 10), ("other", 0),
        ("unknown", 0)])),
    ("buyer_wants_human", Answer.noul 0), ("buyer_rejects_path", Answer.noul (9 / 10))]

/-- The buyer's turn: it is read as rejecting the way forward, in a language that was offered. -/
theorem facts_agree_with_questions_guided :
    Facts.Agrees (TurnQuestions.forTurn (TurnQuestions.new "qs-1" ["en", "es"]) [.buyer] true)
        [.buyer] true guidedBuyerAnswers
        { guide := 9 / 10, fact := 8 / 10, humanRequest := 8 / 10, fraud := 8 / 10,
          conflict := 8 / 10, outsideScope := 8 / 10, validatedLanguages := ["en"] }
        ["en", "es"] :=
  facts_agree_with_questions
    { nonempty := by decide, nodup := by decide, embedded := by decide }
    (by constructor <;> decide +kernel) (by decide +kernel)

end Serbero
