import Serbero.Policy.Decide

/-! # The next question for each party

What the policy sends each party this turn: a language resend, a simpler wording, the needed
question, or a courtesy. A template is never repeated except by the language resend. -/

namespace Serbero

/-- What Serbero last sent a party, and whether it still waits for an answer. -/
structure PartyHistory where
  /-- The last template sent to the party, if any. -/
  lastTemplate : Option Template
  /-- The last question template sent to the party, if any. -/
  lastQuestion : Option Template
  /-- A question was sent and the party has not written since. -/
  outstanding : Bool
  /-- This turn changed the party's language. -/
  languageChanged : Bool
  deriving DecidableEq, Repr

/-- The session's history as the plan reads it. -/
structure History where
  asked : Asked
  buyer : PartyHistory
  seller : PartyHistory
  deriving DecidableEq, Repr

/-- One party's history. -/
def History.party (history : History) : Party → PartyHistory
  | .buyer => history.buyer
  | .seller => history.seller

/-- The template a language resend repeats: the last one sent, except a reminder, which only
points at the unanswered question, so the question itself goes out again. -/
def languageResend (own : PartyHistory) : Option Template :=
  let last := match own.lastTemplate with
    | some .reminder => own.lastQuestion
    | last => last
  last.bind Template.resendable

/-- The questions a party may be asked, each with whether its fact is needed. A normal question
comes before its simple variant. -/
def questionRows (party : Party) (facts : Facts) : List (Bool × Template) :=
  match party with
  | .buyer =>
    [(facts.buyerPaymentUnknown, .askBuyerSent),
      (facts.buyerPaymentUnknown, .askBuyerSentSimple),
      (facts.buyerSent && !facts.buyerHasDetails, .askBuyerDetails)]
  | .seller =>
    [(facts.sellerReceiptUnknown, .askSellerReceived),
      (facts.sellerReceiptUnknown, .askSellerReceivedSimple),
      (facts.sellerNotReceived && !facts.sellerHasChecked, .askSellerCheckAccount)]

/-- The first question whose fact is needed and which was not sent yet. -/
def neededQuestion (party : Party) (facts : Facts) (sent : Template → Bool) : Option Template :=
  ((questionRows party facts).find? fun row => row.1 && !sent row.2).map Prod.snd

/-- No fact is needed from the party. -/
def nothingNeeded (party : Party) (facts : Facts) : Bool :=
  match party with
  | .buyer => !facts.buyerPaymentUnknown && !(facts.buyerSent && !facts.buyerHasDetails)
  | .seller => !facts.sellerReceiptUnknown && !(facts.sellerNotReceived && !facts.sellerHasChecked)

/-- The party answered, or asked for the next step: nothing is sent again. -/
def MessageKind.answered : MessageKind → Bool
  | .answers | .asksNextStep => true
  | _ => false

/-- The resend of step 1: this turn changed the party's language and the party did not answer. -/
def resendFor (own : PartyHistory) (messageKind : MessageKind) : Option Template :=
  if own.languageChanged && !messageKind.answered then languageResend own else none

/-- The simple variant of step 1: the party did not understand the last question. -/
def simpleFor (own : PartyHistory) (messageKind : MessageKind) (sent : Template → Bool) :
    Option Template :=
  if messageKind = .notUnderstood then
    (own.lastQuestion.bind Template.simpleVariant).filter fun simple => !sent simple
  else none

/-- Serbero writes only to a party who wrote this turn, or to a silent party with no question
outstanding whose needed question is new. Returns the templates, and whether they are a language
resend. -/
def forParty (party : Party) (facts : Facts) (history : History) : List Template × Bool :=
  let own := history.party party
  let sent := history.asked.sent party
  match facts.party party with
  | none =>
    if own.outstanding then ([], false)
    else ((neededQuestion party facts sent).toList, false)
  | some partyFacts =>
    -- Step 1: what the party's messages are doing.
    match resendFor own partyFacts.messageKind with
    | some last => ([last], true)
    | none =>
      match simpleFor own partyFacts.messageKind sent with
      | some simple => ([simple], false)
      | none =>
        let nextStep :=
          if partyFacts.messageKind = .asksNextStep ∧ !sent .whatHappensNext then
            [Template.whatHappensNext]
          else []
        -- Step 2: the needed fact, never repeating a template.
        match neededQuestion party facts sent with
        | some question => (nextStep ++ [question], false)
        | none =>
          if nothingNeeded party facts && !sent .thanksWaiting then
            (nextStep ++ [.thanksWaiting], false)
          else (nextStep, false)

/-- Step 3: the party wrote and nothing fits while the other party still owes an answer, to a
question outstanding or to one picked this turn: say so, once. -/
def waitsForOther (party : Party) (facts : Facts) (history : History)
    (own others : List Template) : Bool :=
  let otherOwes := (history.party party.other).outstanding || others.any Template.isQuestion
  (facts.party party).isSome && own.isEmpty && !facts.paymentUnknown party && otherOwes &&
    !history.asked.sent party .waitingOtherParty

/-- Picks the templates to send each party this turn. -/
def nextQuestions (facts : Facts) (history : History) : NextQuestions :=
  let buyer := forParty .buyer facts history
  let seller := forParty .seller facts history
  -- Step 3 reads both lists as step 2 left them.
  let buyerWaits := waitsForOther .buyer facts history buyer.1 seller.1
  let sellerWaits := waitsForOther .seller facts history seller.1 buyer.1
  { buyer := if buyerWaits then buyer.1 ++ [.waitingOtherParty] else buyer.1
    seller := if sellerWaits then seller.1 ++ [.waitingOtherParty] else seller.1
    buyerResend := buyer.2
    sellerResend := seller.2 }

/-! ## What a plan may hold -/

/-- What a language resend repeats may be asked. -/
theorem isAsked_languageResend {own : PartyHistory}
    (hquestion : ∀ question, own.lastQuestion = some question → question.isQuestion = true)
    {template : Template} (h : languageResend own = some template) :
    template.isAsked = true := by
  unfold languageResend at h
  obtain ⟨last, hlast, hresend⟩ := Option.bind_eq_some_iff.mp h
  have hfound := Template.resendable_eq_some hresend
  have hmem : Template.resendableIds.contains template = true := by
    rw [Template.resendable] at hresend
    exact List.contains_iff_mem.mpr (List.mem_of_find?_eq_some hresend)
  split at hlast
  · next hreminder =>
    have := hquestion last hlast
    subst hfound
    cases template <;> first | rfl | cases this
  · next hother =>
    subst hfound
    rw [Template.isAsked, hmem, Bool.true_and, bne_iff_ne]
    rintro rfl
    exact hother hlast

/-- What is asked next is a question. -/
theorem isAsked_neededQuestion {party : Party} {facts : Facts} {sent : Template → Bool}
    {template : Template} (h : neededQuestion party facts sent = some template) :
    template.isAsked = true := by
  unfold neededQuestion at h
  obtain ⟨row, hrow, rfl⟩ := Option.map_eq_some_iff.mp h
  have hmem := List.mem_of_find?_eq_some hrow
  cases party <;> simp only [questionRows, List.mem_cons, List.not_mem_nil, or_false] at hmem <;>
    rcases hmem with rfl | rfl | rfl <;> rfl

/-- The templates a party is sent in a turn may be asked. -/
theorem isAsked_forParty {party : Party} {facts : Facts} {history : History}
    (hquestion : ∀ question, (history.party party).lastQuestion = some question →
      question.isQuestion = true) :
    ∀ template ∈ (forParty party facts history).1, template.isAsked = true := by
  intro template hmem
  unfold forParty at hmem
  simp only [] at hmem
  -- Each `split` is one rule of `forParty`, in order; what falls through comes to the next.
  split at hmem
  · split at hmem
    · cases hmem
    · exact isAsked_neededQuestion (Option.mem_toList.mp hmem)
  next partyFacts _ =>
  split at hmem
  · next last hlast =>
    rw [List.mem_singleton] at hmem
    subst hmem
    unfold resendFor at hlast
    split at hlast
    · exact isAsked_languageResend hquestion hlast
    · cases hlast
  split at hmem
  · next simple hsimple =>
    rw [List.mem_singleton] at hmem
    subst hmem
    unfold simpleFor at hsimple
    split at hsimple
    · obtain ⟨hsimple, -⟩ := Option.filter_eq_some_iff.mp hsimple
      obtain ⟨question, -, hvariant⟩ := Option.bind_eq_some_iff.mp hsimple
      cases question <;> cases hvariant <;> rfl
    · cases hsimple
  -- The hint about what happens next may come before any question that is needed.
  generalize hstep : (if partyFacts.messageKind = .asksNextStep ∧
    !history.asked.sent party .whatHappensNext then [Template.whatHappensNext] else []) = step
    at hmem
  have hnext : ∀ found ∈ step, found.isAsked = true := by
    intro found hfound
    rw [← hstep] at hfound
    split at hfound
    · rw [List.mem_singleton.mp hfound]
      rfl
    · cases hfound
  split at hmem
  · next question hneeded =>
    rcases List.mem_append.mp hmem with hmem | hmem
    · exact hnext template hmem
    · rw [List.mem_singleton.mp hmem]
      exact isAsked_neededQuestion hneeded
  split at hmem
  · rcases List.mem_append.mp hmem with hmem | hmem
    · exact hnext template hmem
    · rw [List.mem_singleton.mp hmem]
      rfl
  · exact hnext template hmem

/-- What a turn picks for a party may be asked. -/
theorem isAsked_nextQuestions {facts : Facts} {history : History}
    (hquestion : ∀ party question, (history.party party).lastQuestion = some question →
      question.isQuestion = true) (party : Party) :
    ∀ template ∈ (nextQuestions facts history).templates party, template.isAsked = true := by
  intro template hmem
  have waits : ∀ {templates : List Template} {waits : Bool}, (∀ found ∈ templates,
      found.isAsked = true) →
        template ∈ (if waits = true then templates ++ [.waitingOtherParty] else templates) →
          template.isAsked = true := by
    intro templates waits htemplates hmem
    split at hmem
    · rcases List.mem_append.mp hmem with hmem | hmem
      · exact htemplates template hmem
      · rw [List.mem_singleton.mp hmem]
        rfl
    · exact htemplates template hmem
  cases party with
  | buyer => exact waits (isAsked_forParty (hquestion .buyer)) hmem
  | seller => exact waits (isAsked_forParty (hquestion .seller)) hmem

end Serbero
