import Serbero.Mediation.Outstanding
import Serbero.Mediation.Plan

/-! # Does a gathering session always have a timer running?

A turn that asks nothing and starts nothing is safe only while something else will end the
session: a hold, or a question to some party that still awaits its answer. The decision table
keeps this except after one kind of turn. A party whose payment fact became unknown again and
whose language changed is sent its last template once more, and when that template is a courtesy
nothing is asked of anyone. -/

namespace Serbero

/-! ## Quiet actions and the rows they leave -/

namespace Action

/-- The templates an action sends a party through the turn loop's `ask`. -/
def templates : Action → Party → List Template
  | ask buyer _, .buyer => buyer
  | ask _ seller, .seller => seller
  | _, _ => []

/-- The turn waits, or sends templates of which none asks for a fact. -/
def quiet : Action → Bool
  | wait => true
  | ask buyer seller => !(buyer ++ seller).any Template.isQuestion
  | _ => false

/-- A quiet action sends no question to anyone. -/
theorem not_isQuestion_of_quiet {action : Action} (h : action.quiet = true) (party : Party) :
    ∀ template ∈ action.templates party, template.isQuestion = false := by
  cases action with
  | ask buyer seller =>
    simp only [quiet, Bool.not_eq_true', List.any_eq_false, List.mem_append,
      Bool.not_eq_true] at h
    intro template hmem
    cases party with
    | buyer => exact h template (Or.inl hmem)
    | seller => exact h template (Or.inr hmem)
  | _ => simp [templates]

end Action

/-- The rows a turn's templates leave in the store: one outbound row for each template, in sending
order, under ids above every id the turn loaded. -/
structure Stored (messages : List Message) (action : Action) (rows : List Message) : Prop where
  outbound : ∀ row ∈ rows, row.direction = .outbound
  templates : ∀ party, (rows.filter (·.isTo party)).map Message.templateId =
    (action.templates party).map some
  above : ∀ row ∈ rows, ∀ message ∈ messages, message.id < row.id
  distinct : (rows.map Message.id).Nodup

/-- A row of the store for a template sent to a party. -/
def outboundRow (party : Party) (id : Int) (template : Template) : Message :=
  NewMessage.row ⟨0, .outbound, party, some template, none, "", 0, .serbero 0 "", 0⟩ id

/-- The rows of one party's templates, under consecutive ids. -/
def outboundRows (party : Party) (id : Int) : List Template → List Message
  | [] => []
  | template :: rest => outboundRow party id template :: outboundRows party (id + 1) rest

/-- What every one of these rows is. -/
theorem mem_outboundRows {party : Party} {id : Int} {templates : List Template} {row : Message}
    (h : row ∈ outboundRows party id templates) :
    row.direction = .outbound ∧ row.party = party ∧ id ≤ row.id ∧
      row.id < id + templates.length := by
  induction templates generalizing id with
  | nil => exact absurd h (by simp [outboundRows])
  | cons template rest ih =>
    rcases List.mem_cons.mp h with rfl | h
    · refine ⟨rfl, rfl, le_refl _, ?_⟩
      simp only [outboundRow, NewMessage.row, List.length_cons]
      omega
    · obtain ⟨hd, hp, hle, hlt⟩ := ih h
      simp only [List.length_cons]
      exact ⟨hd, hp, by omega, by omega⟩

/-- Their templates are the ones sent. -/
theorem templateId_outboundRows (party : Party) (id : Int) (templates : List Template) :
    (outboundRows party id templates).map Message.templateId = templates.map some := by
  induction templates generalizing id with
  | nil => rfl
  | cons template rest ih => rw [outboundRows, List.map_cons, ih]; rfl

/-- Their ids are distinct. -/
theorem nodup_outboundRows (party : Party) (id : Int) (templates : List Template) :
    ((outboundRows party id templates).map Message.id).Nodup := by
  induction templates generalizing id with
  | nil => simp [outboundRows]
  | cons template rest ih =>
    rw [outboundRows, List.map_cons, List.nodup_cons]
    refine ⟨?_, ih (id + 1)⟩
    intro hmem
    obtain ⟨row, hrow, hid⟩ := List.mem_map.mp hmem
    have := (mem_outboundRows hrow).2.2.1
    simp only [outboundRow, NewMessage.row] at hid
    omega

/-- Every action's templates can be stored. -/
theorem exists_stored (messages : List Message) (action : Action) :
    ∃ rows, Stored messages action rows := by
  -- New rows take ids above all that are stored.
  obtain ⟨top, htop⟩ : ∃ top : Int, ∀ message ∈ messages, message.id < top := by
    induction messages with
    | nil => exact ⟨0, by simp⟩
    | cons message rest ih =>
      obtain ⟨top, htop⟩ := ih
      refine ⟨max top (message.id + 1), ?_⟩
      intro other hother
      rcases List.mem_cons.mp hother with rfl | h
      · omega
      · have := htop other h
        omega
  have sided : ∀ party id templates,
      (outboundRows party id templates).filter (·.isTo party) = outboundRows party id templates := by
    intro party id templates
    refine List.filter_eq_self.mpr fun row hrow => ?_
    obtain ⟨hd, hp, -⟩ := mem_outboundRows hrow
    simp [Message.isTo, hd, hp]
  have other : ∀ party id templates, (outboundRows party id templates).filter (·.isTo party.other)
      = [] := by
    intro party id templates
    refine List.filter_eq_nil_iff.mpr fun row hrow => ?_
    obtain ⟨-, hp, -⟩ := mem_outboundRows hrow
    cases party <;> simp [Message.isTo, hp, Party.other]
  -- The buyer's rows come first; each side keeps the order of its templates.
  let buyer := action.templates .buyer
  let seller := action.templates .seller
  refine ⟨outboundRows .buyer top buyer ++ outboundRows .seller (top + buyer.length) seller,
    ?_, ?_, ?_, ?_⟩
  · intro row hrow
    rcases List.mem_append.mp hrow with h | h
    · exact (mem_outboundRows h).1
    · exact (mem_outboundRows h).1
  · intro party
    rw [List.filter_append]
    cases party with
    | buyer =>
      rw [sided, show Party.buyer = Party.seller.other from rfl, other, List.append_nil]
      exact templateId_outboundRows _ _ _
    | seller =>
      rw [sided, show Party.seller = Party.buyer.other from rfl, other, List.nil_append]
      exact templateId_outboundRows _ _ _
  · intro row hrow message hmessage
    have := htop message hmessage
    rcases List.mem_append.mp hrow with h | h
    · have := (mem_outboundRows h).2.2.1
      omega
    · have := (mem_outboundRows h).2.2.1
      omega
  · rw [List.map_append, List.nodup_append]
    -- The two blocks of ids do not meet.
    refine ⟨nodup_outboundRows _ _ _, nodup_outboundRows _ _ _, ?_⟩
    rintro a ha b hb rfl
    obtain ⟨row, hrow, rfl⟩ := List.mem_map.mp ha
    obtain ⟨row', hrow', hid⟩ := List.mem_map.mp hb
    have := (mem_outboundRows hrow).2.2.2
    have := (mem_outboundRows hrow').2.2.1
    omega

/-- The rows of a quiet action neither ask a party nor come from one. -/
theorem Stored.silent {messages rows : List Message} {action : Action}
    (stored : Stored messages action rows) (quiet : action.quiet = true) (party : Party) :
    ∀ row ∈ rows, row.isFrom party = false ∧ row.isQuestionTo party = false := by
  intro row hrow
  have hd := stored.outbound row hrow
  refine ⟨by simp [Message.isFrom, hd], ?_⟩
  by_contra h
  rw [Bool.not_eq_false, Message.isQuestionTo_eq, Bool.and_eq_true] at h
  obtain ⟨hto, hquestion⟩ := h
  obtain ⟨template, htemplate, hquestion⟩ : ∃ template, row.templateId = some template ∧
      template.isQuestion = true := by
    cases h : row.templateId with
    | none => simp [h] at hquestion
    | some template => exact ⟨template, rfl, by simpa [h] using hquestion⟩
  have hmem : row.templateId ∈ (action.templates party).map some := by
    rw [← stored.templates party]
    exact List.mem_map_of_mem (List.mem_filter.mpr ⟨hrow, hto⟩)
  obtain ⟨template', hmem', heq⟩ := List.mem_map.mp hmem
  rw [htemplate, Option.some.injEq] at heq
  subst heq
  rw [Action.not_isQuestion_of_quiet quiet party template' hmem'] at hquestion
  exact absurd hquestion (by simp)

/-! ## What the plan asks -/

/-- The templates that ask nothing and may still be sent again in another language. -/
def courtesies : List Template := [.whatHappensNext, .thanksWaiting, .waitingOtherParty]

/-- The question of a party's payment fact in simpler words. -/
def simpleQuestion : Party → Template
  | .buyer => .askBuyerSentSimple
  | .seller => .askSellerReceivedSimple

/-- The party wrote without answering, its language changed, and the last template it was sent is
a courtesy: the plan repeats that courtesy and nothing else. -/
def RepeatsCourtesy (messages : List Message) (facts : Facts) (changed : List Party)
    (party : Party) : Prop :=
  ∃ own, facts.party party = some own ∧ party ∈ changed ∧ own.messageKind.answered = false ∧
    ∃ template ∈ courtesies, (partyHistory messages party).lastTemplate = some template

/-- Every question the party's facts call for was sent, nothing is to be repeated in a new
language, and no question is to be put in simpler words. -/
def AllAsked (messages : List Message) (facts : Facts) (changed : List Party) (party : Party) :
    Prop :=
  (∀ row ∈ questionRows party facts, row.1 = true → row.2 ∈ askedOf messages party) ∧
    ∀ own, facts.party party = some own →
      resendFor ((turnHistory messages changed).party party) own.messageKind = none ∧
      simpleFor ((turnHistory messages changed).party party) own.messageKind
        ((turnHistory messages changed).asked.sent party) = none

section plan

variable {messages : List Message} {facts : Facts} {changed : List Party} {party : Party}

/-- What was asked is what the messages ask. -/
@[simp] theorem turnHistory_sent (template : Template) :
    (turnHistory messages changed).asked.sent party template =
      (askedOf messages party).contains template := by
  cases party <;> rfl

/-- Each party's history is read off the messages. -/
@[simp] theorem turnHistory_party :
    (turnHistory messages changed).party party =
      { partyHistory messages party with languageChanged := changed.contains party } := by
  cases party <;> rfl

/-- A party's last question is a question. -/
theorem isQuestion_of_lastQuestion {template : Template}
    (h : (partyHistory messages party).lastQuestion = some template) :
    template.isQuestion = true := by
  obtain ⟨⟨i, found⟩, hlast, rfl⟩ := Option.map_eq_some_iff.mp h
  obtain ⟨j, message, -, hf, -⟩ := (LastOf.lastSome_zipIdx_eq_some_iff _ _ _).mp hlast
  split at hf
  · obtain ⟨template', hfilter, heq⟩ := Option.map_eq_some_iff.mp hf
    obtain ⟨-, rfl⟩ := Prod.mk.inj heq
    exact (Option.filter_eq_some_iff.mp hfilter).2
  · exact absurd hf (by simp)

/-- **The resend that asks nothing.** A language resend is not a question exactly when it repeats a
courtesy. -/
theorem resendFor_courtesy_iff (messageKind : MessageKind) :
    (∃ last, resendFor ((turnHistory messages changed).party party) messageKind = some last ∧
        last.isQuestion = false) ↔
      party ∈ changed ∧ messageKind.answered = false ∧
        ∃ template ∈ courtesies, (partyHistory messages party).lastTemplate = some template := by
  simp only [resendFor, turnHistory_party, languageResend]
  constructor
  · rintro ⟨last, hlast, hquestion⟩
    split at hlast
    · next hcond =>
      simp only [Bool.and_eq_true, List.contains_iff_mem, Bool.not_eq_true'] at hcond
      refine ⟨hcond.1, hcond.2, ?_⟩
      split at hlast
      · -- A reminder stands for the unanswered question, which is one.
        obtain ⟨question, hq, hresend⟩ := Option.bind_eq_some_iff.mp hlast
        have := isQuestion_of_lastQuestion hq
        rw [Template.resendable_eq_some hresend, this] at hquestion
        exact absurd hquestion (by simp)
      · next hne =>
        obtain ⟨template, ht, hresend⟩ := Option.bind_eq_some_iff.mp hlast
        have heq := Template.resendable_eq_some hresend
        subst heq
        refine ⟨last, ?_, ht⟩
        cases last <;> first
          | decide
          | exact absurd hquestion (by decide)
          | exact absurd hresend (by decide)
          | exact absurd ht hne
    · exact absurd hlast (by simp)
  · rintro ⟨hchanged, hanswered, template, hcourtesy, ht⟩
    refine ⟨template, ?_, ?_⟩
    · rw [if_pos (by simp [hchanged, hanswered]), ht]
      simp only [courtesies, List.mem_cons, List.not_mem_nil, or_false] at hcourtesy
      rcases hcourtesy with rfl | rfl | rfl <;> rfl
    · simp only [courtesies, List.mem_cons, List.not_mem_nil, or_false] at hcourtesy
      rcases hcourtesy with rfl | rfl | rfl <;> decide

/-- No question is needed exactly when each one the facts call for was sent. -/
theorem neededQuestion_eq_none_iff {sent : Template → Bool} :
    neededQuestion party facts sent = none ↔
      ∀ row ∈ questionRows party facts, row.1 = true → sent row.2 = true := by
  simp [neededQuestion, List.find?_eq_none]

/-- The needed question is one of the questions. -/
theorem isQuestion_of_neededQuestion {sent : Template → Bool} {question : Template}
    (h : neededQuestion party facts sent = some question) : question.isQuestion = true := by
  obtain ⟨⟨needed, found⟩, hfind, rfl⟩ := Option.map_eq_some_iff.mp h
  have hmem := List.mem_of_find?_eq_some hfind
  cases party <;>
    · simp only [questionRows, List.mem_cons, Prod.mk.injEq, List.not_mem_nil, or_false] at hmem
      rcases hmem with ⟨-, rfl⟩ | ⟨-, rfl⟩ | ⟨-, rfl⟩ <;> rfl

/-- A simpler wording is a question. -/
theorem isQuestion_of_simpleFor {own : PartyHistory} {messageKind : MessageKind}
    {sent : Template → Bool} {simple : Template}
    (h : simpleFor own messageKind sent = some simple) : simple.isQuestion = true := by
  unfold simpleFor at h
  split at h
  · obtain ⟨hbind, -⟩ := Option.filter_eq_some_iff.mp h
    obtain ⟨question, -, hsimple⟩ := Option.bind_eq_some_iff.mp hbind
    exact Template.isQuestion_simpleVariant hsimple
  · exact absurd h (by simp)

/-- With no question outstanding, a silent party is asked nothing exactly when every needed
question was sent. -/
theorem forParty_asks_nothing_of_silent
    (answered : (partyHistory messages party).outstanding = false)
    (silent : facts.party party = none) :
    (forParty party facts (turnHistory messages changed)).1.any Template.isQuestion = false ↔
      AllAsked messages facts changed party := by
  have needed : neededQuestion party facts ((turnHistory messages changed).asked.sent party) =
      none ↔ ∀ row ∈ questionRows party facts, row.1 = true → row.2 ∈ askedOf messages party := by
    simp only [neededQuestion_eq_none_iff, turnHistory_sent, List.contains_iff_mem]
  simp only [forParty, silent, turnHistory_party, answered, AllAsked, ← needed]
  cases h : neededQuestion party facts ((turnHistory messages changed).asked.sent party) with
  | none => simp
  | some question => simp [isQuestion_of_neededQuestion h]

/-- A party who wrote is asked nothing exactly when a courtesy is repeated or everything was
asked. -/
theorem forParty_asks_nothing_of_wrote {own : PartyFacts}
    (wrote : facts.party party = some own) :
    (forParty party facts (turnHistory messages changed)).1.any Template.isQuestion = false ↔
      RepeatsCourtesy messages facts changed party ∨ AllAsked messages facts changed party := by
  have needed : neededQuestion party facts ((turnHistory messages changed).asked.sent party) =
      none ↔ ∀ row ∈ questionRows party facts, row.1 = true → row.2 ∈ askedOf messages party := by
    simp only [neededQuestion_eq_none_iff, turnHistory_sent, List.contains_iff_mem]
  have repeats : RepeatsCourtesy messages facts changed party ↔ ∃ last,
      resendFor ((turnHistory messages changed).party party) own.messageKind = some last ∧
        last.isQuestion = false := by
    rw [resendFor_courtesy_iff]
    simp [RepeatsCourtesy, wrote]
  rw [repeats]
  simp only [AllAsked, ← needed, wrote, Option.some.injEq, forall_eq']
  simp only [forParty, wrote]
  cases hresend : resendFor ((turnHistory messages changed).party party) own.messageKind with
  | some last => simp
  | none =>
    cases hsimple : simpleFor ((turnHistory messages changed).party party) own.messageKind
        ((turnHistory messages changed).asked.sent party) with
    | some simple => simp [isQuestion_of_simpleFor hsimple]
    | none =>
      -- `what_happens_next` and `thanks_waiting` ask nothing, so only the needed question counts.
      cases hneeded : neededQuestion party facts
          ((turnHistory messages changed).asked.sent party) with
      | some question => simp [isQuestion_of_neededQuestion hneeded]
      | none =>
        have next : Template.whatHappensNext.isQuestion = false := rfl
        have thanks : Template.thanksWaiting.isQuestion = false := rfl
        simp only [and_self, or_true, iff_true]
        split <;> split <;> simp [next, thanks]

/-- **What a party is asked.** With no question outstanding, a party's templates hold no question
exactly when a courtesy is repeated or everything was asked. -/
theorem forParty_asks_nothing_iff
    (answered : (partyHistory messages party).outstanding = false) :
    (forParty party facts (turnHistory messages changed)).1.any Template.isQuestion = false ↔
      RepeatsCourtesy messages facts changed party ∨ AllAsked messages facts changed party := by
  cases wrote : facts.party party with
  | none =>
    have noRepeat : ¬ RepeatsCourtesy messages facts changed party := by
      rintro ⟨own, hown, -⟩
      exact absurd hown (by simp [wrote])
    rw [forParty_asks_nothing_of_silent answered wrote, or_iff_right noRepeat]
  | some own => exact forParty_asks_nothing_of_wrote wrote

/-- The whole plan asks nothing exactly when neither party's own templates do: step 3 adds only a
courtesy. -/
theorem nextQuestions_hasQuestion (facts : Facts) (history : History) :
    (nextQuestions facts history).hasQuestion = false ↔
      ∀ party, (forParty party facts history).1.any Template.isQuestion = false := by
  have waiting : Template.waitingOtherParty.isQuestion = false := rfl
  have both : ∀ p : Party → Prop, (∀ party, p party) ↔ p .buyer ∧ p .seller :=
    fun p => ⟨fun h => ⟨h _, h _⟩, fun h party => by cases party; exacts [h.1, h.2]⟩
  rw [both, NextQuestions.hasQuestion, List.any_append, Bool.or_eq_false_iff]
  simp only [nextQuestions]
  refine and_congr ?_ ?_
  · split <;> simp [waiting]
  · split <;> simp [waiting]

end plan

/-! ## When a decision is quiet -/

namespace Turn

/-- With both parties heard and no hold, gathered facts never end in a quiet action. -/
theorem factsGathered_loud {turn : Turn} (buyer : turn.buyerHeard = true)
    (seller : turn.sellerHeard = true) (free : turn.held = false) :
    ∃ action, turn.factsGathered = some action ∧ action.quiet = false := by
  unfold factsGathered
  rw [buyer, seller, free]
  by_cases hgrace : turn.handoffGrace = 0
  · exact ⟨.handoff .factsGathered, by simp [hgrace], rfl⟩
  · exact ⟨.hold, by simp [hgrace], rfl⟩

/-- Neither does a path whose guidance the languages may forbid. -/
theorem guideOrHold_loud {turn : Turn} (buyer : turn.buyerHeard = true)
    (seller : turn.sellerHeard = true) (free : turn.held = false) (path : Path) :
    ∃ action, turn.guideOrHold path = some action ∧ action.quiet = false := by
  unfold guideOrHold
  split
  · exact ⟨.guide path, rfl, rfl⟩
  · exact factsGathered_loud buyer seller free

/-- Unanswered claims of both sides never conflict. -/
theorem not_conflict_of_unknown {turn : Turn}
    (unknown : ∃ party, turn.facts.paymentUnknown party = true) :
    turn.conflictWithBothSidesAnswered = false := by
  obtain ⟨party, h⟩ := unknown
  cases party with
  | buyer =>
    have : turn.facts.buyerSent = false := by
      simp only [Facts.paymentUnknown, Facts.buyerPaymentUnknown, Bool.and_eq_true,
        Bool.not_eq_true'] at h
      exact h.1
    simp [conflictWithBothSidesAnswered, this]
  | seller =>
    have : turn.facts.sellerNotReceived = false := by
      simp only [Facts.paymentUnknown, Facts.sellerReceiptUnknown, Bool.and_eq_true,
        Bool.not_eq_true'] at h
      exact h.1.2
    simp [conflictWithBothSidesAnswered, this]

/-- Some payment fact is unknown exactly when they are not both known. -/
theorem exists_paymentUnknown_iff (facts : Facts) :
    (∃ party, facts.paymentUnknown party = true) ↔
      (!facts.buyerPaymentUnknown && !facts.sellerReceiptUnknown) = false := by
  constructor
  · rintro ⟨party, h⟩
    cases party
    · simp [show facts.buyerPaymentUnknown = true from h]
    · simp [show facts.sellerReceiptUnknown = true from h]
  · intro h
    by_cases hbuyer : facts.buyerPaymentUnknown = true
    · exact ⟨.buyer, hbuyer⟩
    · rw [Bool.not_eq_true] at hbuyer
      have : facts.sellerReceiptUnknown = true := by simpa [hbuyer] using h
      exact ⟨.seller, this⟩

/-- The rows after guidance are quiet exactly when a payment fact is unknown, the plan asks
nothing, and both variants were not used up. -/
theorem decideAfterGuidance_quiet_iff {turn : Turn} (buyer : turn.buyerHeard = true)
    (seller : turn.sellerHeard = true) (free : turn.held = false)
    (rounds : max turn.buyerRounds turn.sellerRounds < turn.maxRounds) :
    turn.decideAfterGuidance.quiet = true ↔
      (∃ party, turn.facts.paymentUnknown party = true) ∧ turn.next.hasQuestion = false ∧
        turn.unknownAfterBothVariants = false := by
  -- With no question left, the turn thanks somebody or waits: either way it asks nothing.
  have courtesy : turn.next.hasQuestion = false → (courtesyOrWait turn.next).quiet = true := by
    intro h
    unfold courtesyOrWait
    split
    · rfl
    · exact congrArg not h
  unfold decideAfterGuidance
  -- The branches in the order of `decideAfterGuidance`; only the last one may be quiet.
  by_cases hconflict : turn.conflictWithBothSidesAnswered = true
  · rw [if_pos hconflict]
    refine iff_of_false (by simp [Action.quiet]) ?_
    rintro ⟨hunknown, -⟩
    rw [not_conflict_of_unknown hunknown] at hconflict
    exact absurd hconflict (by simp)
  rw [if_neg hconflict, if_neg (by omega)]
  by_cases hquestion : turn.next.hasQuestion = true
  · rw [if_pos hquestion]
    refine iff_of_false ?_ (by simp [hquestion])
    have : (Action.ask turn.next.buyer turn.next.seller).quiet = !turn.next.hasQuestion := rfl
    simp [this, hquestion]
  rw [if_neg hquestion]
  rw [Bool.not_eq_true] at hquestion
  by_cases hvariants : turn.unknownAfterBothVariants = true
  · rw [if_pos hvariants]
    exact iff_of_false (by simp [Action.quiet]) (by simp [hvariants])
  rw [if_neg hvariants]
  rw [Bool.not_eq_true] at hvariants
  rw [exists_paymentUnknown_iff]
  -- Both sides are known, so the facts are gathered and something is said.
  by_cases hknown : (!turn.facts.buyerPaymentUnknown && !turn.facts.sellerReceiptUnknown) = true
  · obtain ⟨action, haction, hloud⟩ := factsGathered_loud buyer seller free
    simp only [hknown, if_true, haction, hloud]
    simp
  · rw [if_neg hknown]
    rw [Bool.not_eq_true] at hknown
    exact iff_of_true (courtesy hquestion) ⟨hknown, hquestion, hvariants⟩

/-- **When a gathering turn is quiet.** With both parties heard, no hold and rounds left: no row
toward a human or a guide applies, and the rows after guidance are quiet. -/
theorem decide_quiet_iff {turn : Turn} (gathering : turn.phase = .gathering)
    (buyer : turn.buyerHeard = true) (seller : turn.sellerHeard = true)
    (free : turn.held = false)
    (rounds : max turn.buyerRounds turn.sellerRounds < turn.maxRounds) :
    turn.decide.quiet = true ↔
      (turn.anyParty (·.wantsHuman) = false ∧ turn.facts.fraud = false ∧
        turn.facts.outsideScope = false ∧ turn.facts.sellerReceivedForGuide = false ∧
        turn.facts.buyerNotSentForGuide = false) ∧
      (∃ party, turn.facts.paymentUnknown party = true) ∧ turn.next.hasQuestion = false ∧
        turn.unknownAfterBothVariants = false := by
  have notGuiding : ¬ turn.phase = .guiding := by simp [gathering]
  unfold decide
  -- The hand-offs and guides of `decide` in its order; what is left is `decideAfterGuidance`.
  by_cases hhuman : turn.anyParty (·.wantsHuman) = true
  · rw [if_pos hhuman]
    exact iff_of_false (by simp [Action.quiet]) (by simp [hhuman])
  rw [if_neg hhuman]
  by_cases hfraud : turn.facts.fraud = true
  · rw [if_pos hfraud]
    exact iff_of_false (by simp [Action.quiet]) (by simp [hfraud])
  rw [if_neg hfraud]
  by_cases hscope : turn.facts.outsideScope = true
  · rw [if_pos hscope]
    exact iff_of_false (by simp [Action.quiet]) (by simp [hscope])
  rw [if_neg hscope, if_neg (fun h => notGuiding h.1), if_neg notGuiding, decideGathering]
  by_cases harrived : turn.facts.sellerReceivedForGuide = true
  · obtain ⟨action, haction, hloud⟩ := guideOrHold_loud buyer seller free .paymentArrived
    rw [if_pos harrived, haction]
    exact iff_of_false (by simp [hloud]) (by simp [harrived])
  rw [if_neg harrived]
  by_cases hnotSent : turn.facts.buyerNotSentForGuide = true
  · obtain ⟨action, haction, hloud⟩ := guideOrHold_loud buyer seller free .paymentNotSent
    rw [if_pos hnotSent, haction]
    exact iff_of_false (by simp [hloud]) (by simp [hnotSent])
  rw [if_neg hnotSent]
  simp only [Bool.not_eq_true] at hhuman hfraud hscope harrived hnotSent
  rw [decideAfterGuidance_quiet_iff buyer seller free rounds]
  simp only [hhuman, hfraud, hscope, harrived, hnotSent, and_self, true_and]

end Turn

/-! ## The stall -/

/-- Both openers were sent. -/
def OpenersSent (messages : List Message) : Prop :=
  Template.askBuyerSent ∈ askedOf messages .buyer ∧
    Template.askSellerReceived ∈ askedOf messages .seller

instance (messages : List Message) : Decidable (OpenersSent messages) :=
  inferInstanceAs (Decidable (_ ∧ _))

/-- The turn leaves a timer running: when it decides to wait or asks nothing, the session is armed
once its templates are stored, whatever rows they became. -/
def LeavesTimer (settings : Settings) (validatedLanguages : List String) (session : Session)
    (messages : List Message) (events : List Event) (facts : Facts) (changed : List Party) :
    Prop :=
  let turn := turnOf settings validatedLanguages .gathering session messages events facts changed
  turn.decide.quiet = true → ∀ rows after now, Stored messages turn.decide rows →
    after.Perm (messages ++ rows) → (clocks session after events now).Armed

/-- The turns after which nothing is running: no hold, both parties answered everything asked, no
row toward a human or a guide applies, and each party whose payment fact is unknown, though its
simpler question was never sent, only gets a courtesy again in its new language. -/
structure Stalls (session : Session) (messages : List Message) (events : List Event)
    (facts : Facts) (changed : List Party) : Prop where
  notHeld : Hold.current session.sessionId events messages = none
  answered : ∀ party, ¬ Outstanding messages party
  noHuman : ∀ party own, facts.party party = some own → own.wantsHuman = false
  noFraud : facts.fraud = false
  inScope : facts.outsideScope = false
  notArrived : facts.sellerReceivedForGuide = false
  notUnsent : facts.buyerNotSentForGuide = false
  someUnknown : ∃ party, facts.paymentUnknown party = true
  unknown : ∀ party, facts.paymentUnknown party = true →
    simpleQuestion party ∉ askedOf messages party ∧
      RepeatsCourtesy messages facts changed party
  known : ∀ party, facts.paymentUnknown party = false →
    RepeatsCourtesy messages facts changed party ∨ AllAsked messages facts changed party

section stall

variable {settings : Settings} {validatedLanguages : List String} {session : Session}
  {messages : List Message} {events : List Event} {facts : Facts} {changed : List Party}

/-- What is armed after a quiet turn of an active session was armed before: the hold, or a question
that awaits its answer. -/
theorem armed_after_quiet_iff (active : session.state = .active)
    (distinct : (messages.map Message.id).Nodup) {action : Action} (quiet : action.quiet = true)
    {rows after : List Message} (stored : Stored messages action rows)
    (perm : after.Perm (messages ++ rows)) (now : Int) :
    (clocks session after events now).Armed ↔
      (Hold.current session.sessionId events messages).isSome = true ∨
        ∃ party, Outstanding messages party := by
  have distinctAfter : (after.map Message.id).Nodup := by
    rw [(perm.map Message.id).nodup_iff, List.map_append, List.nodup_append]
    refine ⟨distinct, stored.distinct, ?_⟩
    rintro a ha b hb rfl
    obtain ⟨message, hmessage, rfl⟩ := List.mem_map.mp ha
    obtain ⟨row, hrow, hid⟩ := List.mem_map.mp hb
    have := stored.above row hrow message hmessage
    omega
  have hold := Hold.current_append session.sessionId events perm
    fun row hrow party => (stored.silent quiet party row hrow).2
  have awaiting : ∀ party, ((clocks session after events now).party party).awaiting = true ↔
      Outstanding messages party := by
    intro party
    rw [← outstanding_append perm (stored.silent quiet party),
      ← partyClock_awaiting distinctAfter party]
    cases party <;> rfl
  have gathering : (clocks session after events now).phase = .gathering := by
    simp [clocks, active]
  rw [Clocks.Armed, if_neg (by simp [gathering])]
  refine or_congr ?_ (exists_congr awaiting)
  rw [show (clocks session after events now).heldAt =
    (Hold.current session.sessionId events after).map Hold.startedAt from rfl, Option.isSome_map,
    hold]

/-- A party whose opener was sent and who owes no answer wrote. -/
theorem heard_of_not_outstanding {party : Party} {template : Template}
    (opener : template ∈ askedOf messages party) (question : template.isQuestion = true)
    (answered : ¬ Outstanding messages party) : heard messages party = true := by
  obtain ⟨message, hmem, htemplate⟩ := List.mem_filterMap.mp opener
  obtain ⟨hmem, hto⟩ := List.mem_filter.mp hmem
  by_contra hsilent
  rw [Bool.not_eq_true, heard, List.any_eq_false] at hsilent
  refine answered ⟨message, hmem, ?_, ?_⟩
  · simp only [Message.isQuestionTo_eq, hto, htemplate, Option.any_some, question, Bool.and_self]
  · intro reply hreply hfrom
    exact absurd hfrom (by simp [hsilent reply hreply])

/-- The variants of a party's payment question are used up exactly when the simpler one was sent,
once the openers were. -/
theorem unknownAfterBothVariants_iff (openers : OpenersSent messages) :
    (turnOf settings validatedLanguages .gathering session messages events facts
      changed).unknownAfterBothVariants = false ↔
      ∀ party, facts.paymentUnknown party = true →
        simpleQuestion party ∉ askedOf messages party := by
  have both : ∀ p : Party → Prop, (∀ party, p party) ↔ p .buyer ∧ p .seller :=
    fun p => ⟨fun h => ⟨h _, h _⟩, fun h party => by cases party; exacts [h.1, h.2]⟩
  rw [both]
  simp only [Turn.unknownAfterBothVariants, turnOf, turnHistory_sent, simpleQuestion,
    Facts.paymentUnknown, List.contains_iff_mem.mpr openers.1,
    List.contains_iff_mem.mpr openers.2]
  simp

/-- **When a quiet turn leaves no timer.** In an active session with both openers sent and rounds
left, a turn that waits or asks nothing leaves something armed unless it repeats a courtesy in a
new language to a party whose payment fact is unknown again. -/
theorem leavesTimer_iff_not_stalls (active : session.state = .active)
    (distinct : (messages.map Message.id).Nodup) (openers : OpenersSent messages)
    (rounds : max session.buyerRounds session.sellerRounds < settings.maxRounds) :
    LeavesTimer settings validatedLanguages session messages events facts changed ↔
      ¬ Stalls session messages events facts changed := by
  by_cases armed : (Hold.current session.sessionId events messages).isSome = true ∨
      ∃ party, Outstanding messages party
  · -- Something ran before the turn, and a quiet turn stops nothing.
    refine iff_of_true ?_ ?_
    · intro quiet rows after now stored perm
      exact (armed_after_quiet_iff active distinct quiet stored perm now).mpr armed
    · intro stalls
      rcases armed with hheld | ⟨party, houtstanding⟩
      · rw [stalls.notHeld] at hheld
        exact absurd hheld (by simp)
      · exact stalls.answered party houtstanding
  · -- Nothing ran before the turn: the turn must not be quiet.
    obtain ⟨hfree, hanswered⟩ := not_or.mp armed
    rw [not_exists] at hanswered
    have answered : ∀ party, (partyHistory messages party).outstanding = false := by
      intro party
      rw [← Bool.not_eq_true, partyHistory_outstanding distinct]
      exact hanswered party
    have buyer : heard messages .buyer = true :=
      heard_of_not_outstanding openers.1 rfl (hanswered .buyer)
    have seller : heard messages .seller = true :=
      heard_of_not_outstanding openers.2 rfl (hanswered .seller)
    have loud : LeavesTimer settings validatedLanguages session messages events facts changed ↔
        ¬ (turnOf settings validatedLanguages .gathering session messages events facts
          changed).decide.quiet = true := by
      constructor
      · intro leaves quiet
        obtain ⟨rows, stored⟩ := exists_stored messages (turnOf settings validatedLanguages
          .gathering session messages events facts changed).decide
        exact armed ((armed_after_quiet_iff active distinct quiet stored (.refl _) 0).mp
          (leaves quiet rows _ 0 stored (.refl _)))
      · intro hloud quiet
        exact absurd quiet hloud
    rw [loud, Turn.decide_quiet_iff rfl buyer seller (by simpa [turnOf] using hfree) rounds,
      unknownAfterBothVariants_iff openers]
    refine not_congr ?_
    have plan : (turnOf settings validatedLanguages .gathering session messages events facts
        changed).next.hasQuestion = false ↔
        ∀ party, RepeatsCourtesy messages facts changed party ∨
          AllAsked messages facts changed party :=
      (nextQuestions_hasQuestion facts (turnHistory messages changed)).trans
        (forall_congr' fun party => forParty_asks_nothing_iff (answered party))
    have human : (turnOf settings validatedLanguages .gathering session messages events facts
        changed).anyParty (·.wantsHuman) = false ↔
        ∀ party own, facts.party party = some own → own.wantsHuman = false := by
      rw [Turn.anyParty, List.any_eq_false]
      constructor
      · intro h party own hown
        simpa [turnOf, hown] using h party (Party.mem_both party)
      · intro h party _
        cases hown : facts.party party with
        | none => simp [turnOf, hown]
        | some own => simpa [turnOf, hown] using h party own hown
    rw [plan, human]
    constructor
    · rintro ⟨⟨hhuman, hfraud, hscope, harrived, hunsent⟩, hunknown, hplan, hsimple⟩
      refine ⟨by simpa using hfree, hanswered, hhuman, hfraud, hscope, harrived, hunsent,
        hunknown, ?_, fun party _ => hplan party⟩
      intro party hparty
      refine ⟨hsimple party hparty, (hplan party).resolve_right ?_⟩
      -- The simpler question of an unknown fact is needed and was not sent.
      intro hall
      refine hsimple party hparty ?_
      have row : (facts.paymentUnknown party, simpleQuestion party) ∈ questionRows party facts := by
        cases party <;> simp [questionRows, simpleQuestion, Facts.paymentUnknown]
      exact hall.1 _ row hparty
    · intro stalls
      refine ⟨⟨stalls.noHuman, stalls.noFraud, stalls.inScope, stalls.notArrived,
        stalls.notUnsent⟩, stalls.someUnknown, ?_, fun party h => (stalls.unknown party h).1⟩
      intro party
      by_cases hparty : facts.paymentUnknown party = true
      · exact Or.inl (stalls.unknown party hparty).2
      · exact stalls.known party (by simpa using hparty)

end stall

/-! ### A courtesy in a new language -/

/-- A message of a party. -/
def inboundRow (party : Party) (id : Int) : Message :=
  NewMessage.row ⟨0, .inbound, party, none, none, "", 0, .party 0, 0⟩ id

/-- An active session, addressed in the default language, in which no round was counted yet. -/
def plainSession : Session :=
  { NewSession.row ⟨0, 0, none, none, none, none, 0⟩ with state := .active }

/-- The settings of a small deployment. -/
def plainSettings : Settings :=
  { enabled := true, defaultLanguage := "en", languages := ["en", "es"], maxRounds := 3
    maxMessageChars := 2000, maxMessagesPerTurn := 10, responseTimeout := 3600
    selfResolutionTimeout := 3600, handoffGrace := 600 }

/-- The buyer answered its opener and was thanked; then the seller answered, and the buyer wrote
again. -/
def thankedMessages : List Message :=
  [outboundRow .buyer 1 .askBuyerSent, outboundRow .seller 2 .askSellerReceived,
    inboundRow .buyer 3, outboundRow .buyer 4 .thanksWaiting, inboundRow .seller 5,
    inboundRow .buyer 6]

/-- The seller's receipt is known, below the guide threshold; the buyer only greets, in another
language, and no longer states a payment. -/
def greetedFacts : Facts :=
  { buyerSent := false, buyerNotSent := false, buyerNotSentForGuide := false
    buyerHasDetails := false, sellerReceived := true, sellerReceivedForGuide := false
    sellerNotReceived := false, sellerHasChecked := false, conflict := false, fraud := false
    outsideScope := false
    buyer := some ⟨false, false, some "es", .greeting⟩
    seller := some ⟨false, false, none, .answers⟩ }

/-- The thanked buyer's greeting, in another language. -/
theorem leavesTimer_iff_not_stalls_thanked :
    LeavesTimer plainSettings ["en"] plainSession thankedMessages [] greetedFacts [.buyer] ↔
      ¬ Stalls plainSession thankedMessages [] greetedFacts [.buyer] :=
  leavesTimer_iff_not_stalls rfl (by decide) (by decide) (by decide)

/-- **A thanked buyer greets in another language and the session sits still.** Both parties get
`thanks_waiting`, nobody is asked anything, and no timer runs. -/
theorem not_leavesTimer_of_courtesy :
    ¬ ∀ (settings : Settings) (validatedLanguages : List String) (session : Session)
        (messages : List Message) (events : List Event) (facts : Facts) (changed : List Party),
        session.state = .active → (messages.map Message.id).Nodup → OpenersSent messages →
        max session.buyerRounds session.sellerRounds < settings.maxRounds →
        LeavesTimer settings validatedLanguages session messages events facts changed := by
  intro always
  have leaves := always plainSettings ["en"] plainSession thankedMessages [] greetedFacts [.buyer]
    rfl (by decide) (by decide) (by decide)
  have decided : (turnOf plainSettings ["en"] .gathering plainSession thankedMessages []
      greetedFacts [.buyer]).decide = .ask [.thanksWaiting] [.thanksWaiting] := by decide
  have rows : Stored thankedMessages (.ask [.thanksWaiting] [.thanksWaiting])
      [outboundRow .buyer 7 .thanksWaiting, outboundRow .seller 8 .thanksWaiting] :=
    ⟨by decide, by decide, by decide, by decide⟩
  have armed := leaves (by rw [decided]; decide) _ _ 0 (by rw [decided]; exact rows) (.refl _)
  revert armed
  decide

end Serbero
