import Serbero.Judge.Facts
import Serbero.Policy.Action

/-! # The decision table

A pure function from the facts of a turn and the session's history to one action. Rows are
checked in order and the first match wins. Every path toward a human is checked before any path
that guides the parties, and guidance needs both parties' languages to be validated. -/

namespace Serbero

/-- Template ids already sent to each party, in any language. -/
structure Asked where
  buyer : List Template
  seller : List Template
  deriving DecidableEq, Repr

/-- Whether a template was sent to a party. -/
def Asked.sent (asked : Asked) (party : Party) (template : Template) : Bool :=
  match party with
  | .buyer => asked.buyer.contains template
  | .seller => asked.seller.contains template

/-- The templates picked for each party this turn, in sending order. -/
structure NextQuestions where
  buyer : List Template
  seller : List Template
  /-- The party's templates are a resend in a new language, which never counts as a round. -/
  buyerResend : Bool
  sellerResend : Bool
  deriving DecidableEq, Repr

namespace NextQuestions

/-- The templates picked for one party. -/
def templates (next : NextQuestions) : Party → List Template
  | .buyer => next.buyer
  | .seller => next.seller

/-- The turn asks the party a question that is not a language resend. -/
def asks (next : NextQuestions) (party : Party) : Bool :=
  match party with
  | .buyer => !next.buyerResend && next.buyer.any Template.isQuestion
  | .seller => !next.sellerResend && next.seller.any Template.isQuestion

/-- Some template of the plan is a question. -/
def hasQuestion (next : NextQuestions) : Bool :=
  (next.buyer ++ next.seller).any Template.isQuestion

end NextQuestions

/-- Everything one decision reads. -/
structure Turn where
  phase : Phase
  facts : Facts
  /-- Each party's current language, after this turn's detection. -/
  buyerLanguage : String
  sellerLanguage : String
  /-- The active judge's `validated_languages`. -/
  validatedLanguages : List String
  /-- Question rounds each party was asked so far. -/
  buyerRounds : Nat
  sellerRounds : Nat
  maxRounds : Nat
  asked : Asked
  next : NextQuestions
  /-- The party wrote at least once in this session. -/
  buyerHeard : Bool
  sellerHeard : Bool
  /-- The session already holds for the parties. -/
  held : Bool
  /-- `[mediation].handoff_grace` in seconds; zero hands off at once. -/
  handoffGrace : Nat
  deriving DecidableEq, Repr

namespace Turn

/-- Some party who wrote in this turn meets the check. -/
def anyParty (turn : Turn) (check : PartyFacts → Bool) : Bool :=
  Party.both.any fun party => (turn.facts.party party).any check

/-- Guidance mentions a fund action, so both parties' languages must be validated. -/
def validated (turn : Turn) : Bool :=
  turn.validatedLanguages.contains turn.buyerLanguage &&
    turn.validatedLanguages.contains turn.sellerLanguage

/-- The `facts_gathered` hand-off, once both parties were heard: a hold first, unless the session
already holds or no grace is configured; nothing while a party is still awaited. -/
def factsGathered (turn : Turn) : Option Action :=
  if !(turn.buyerHeard && turn.sellerHeard) then none
  else if turn.held then some .wait
  else if turn.handoffGrace == 0 then some (.handoff .factsGathered)
  else some .hold

/-- Guidance when the languages allow it; otherwise the facts go to a human. -/
def guideOrHold (turn : Turn) (path : Path) : Option Action :=
  if turn.validated then some (.guide path) else turn.factsGathered

/-- The buyer says they paid, the seller says nothing arrived, the claims conflict, and each side
was asked its follow-up (or answered it). -/
def conflictWithBothSidesAnswered (turn : Turn) : Bool :=
  let facts := turn.facts
  let details := facts.buyerHasDetails || turn.asked.sent .buyer .askBuyerDetails
  let checked := facts.sellerHasChecked || turn.asked.sent .seller .askSellerCheckAccount
  facts.buyerSent && facts.sellerNotReceived && facts.conflict && details && checked

/-- A payment fact is still unknown after both of its questions were sent. -/
def unknownAfterBothVariants (turn : Turn) : Bool :=
  let bothSent := fun party normal simple =>
    turn.asked.sent party normal && turn.asked.sent party simple
  (turn.facts.buyerPaymentUnknown && bothSent .buyer .askBuyerSent .askBuyerSentSimple) ||
    (turn.facts.sellerReceiptUnknown &&
      bothSent .seller .askSellerReceived .askSellerReceivedSimple)

/-- The courtesy row: nothing to ask, but a party who answered everything is still told so. -/
def courtesyOrWait (next : NextQuestions) : Action :=
  if next.buyer.isEmpty && next.seller.isEmpty then .wait else .ask next.buyer next.seller

/-- The rows after guidance: conflict, round limit, questions, uncertainty, gathered facts,
courtesy. -/
def decideAfterGuidance (turn : Turn) : Action :=
  if turn.conflictWithBothSidesAnswered then .handoff .conflictingClaims
  else if max turn.buyerRounds turn.sellerRounds ≥ turn.maxRounds then .handoff .roundLimit
  else if turn.next.hasQuestion then .ask turn.next.buyer turn.next.seller
  else if turn.unknownAfterBothVariants then .handoff .uncertain
  else
    match if !turn.facts.buyerPaymentUnknown && !turn.facts.sellerReceiptUnknown
      then turn.factsGathered else none with
    | some action => action
    | none => courtesyOrWait turn.next

/-- The rows of a session that still gathers facts: guidance on the actor's own word first. -/
def decideGathering (turn : Turn) : Action :=
  match if turn.facts.sellerReceivedForGuide then turn.guideOrHold .paymentArrived else none with
  | some action => action
  | none =>
    match if turn.facts.buyerNotSentForGuide then turn.guideOrHold .paymentNotSent else none with
    | some action => action
    | none => decideAfterGuidance turn

/-- The decision table: rows in order, first match wins. -/
def decide (turn : Turn) : Action :=
  if turn.anyParty (·.wantsHuman) then .handoff .humanRequested
  else if turn.facts.fraud then .handoff .fraudSignal
  else if turn.facts.outsideScope then .handoff .outsideScope
  else if turn.phase = .guiding ∧ turn.anyParty (·.rejectsPath) then
    .handoff .selfResolutionStalled
  else if turn.phase = .guiding then .wait
  else decideGathering turn

/-! ## What an action tells -/

/-- What is known of a turn from the action its table picks. -/
def Explains (turn : Turn) : Action → Prop
  | .ask buyer seller => buyer = turn.next.buyer ∧ seller = turn.next.seller
  | .handoff reason => reason ≠ .unresponsive
  | .hold => turn.held = false ∧ turn.buyerHeard = true ∧ turn.sellerHeard = true
  | _ => True

/-- The decision on gathered facts has its explanation. -/
theorem explains_factsGathered {turn : Turn} {action : Action}
    (h : turn.factsGathered = some action) : turn.Explains action := by
  unfold factsGathered at h
  split at h
  · cases h
  next hheard =>
  simp only [Bool.not_eq_true', Bool.not_eq_false, Bool.and_eq_true] at hheard
  split at h
  · cases h
    exact trivial
  next hheld =>
  split at h
  · cases h
    intro heq
    cases heq
  · cases h
    exact ⟨by simpa using hheld, hheard⟩

/-- So has a guide, or the hold in its place. -/
theorem explains_guideOrHold {turn : Turn} {path : Path} {action : Action}
    (h : turn.guideOrHold path = some action) : turn.Explains action := by
  unfold guideOrHold at h
  split at h
  · cases h
    exact trivial
  · exact explains_factsGathered h

/-- So has the decision after a guidance. -/
theorem explains_decideAfterGuidance (turn : Turn) :
    turn.Explains turn.decideAfterGuidance := by
  have courtesy : turn.Explains (courtesyOrWait turn.next) := by
    unfold courtesyOrWait
    split
    · exact trivial
    · exact ⟨rfl, rfl⟩
  unfold decideAfterGuidance
  split
  · exact nofun
  split
  · exact nofun
  split
  · exact ⟨rfl, rfl⟩
  split
  · exact nofun
  split
  · next action haction =>
    split at haction
    · exact explains_factsGathered haction
    · cases haction
  · exact courtesy

/-- So has the decision while gathering. -/
theorem explains_decideGathering (turn : Turn) : turn.Explains turn.decideGathering := by
  unfold decideGathering
  split
  · next action haction =>
    split at haction
    · exact explains_guideOrHold haction
    · cases haction
  split
  · next action haction =>
    split at haction
    · exact explains_guideOrHold haction
    · cases haction
  · exact turn.explains_decideAfterGuidance

/-- The table asks what the plan picked, holds only once both parties were heard and no hold is in
force, and never hands a session off as unresponsive. -/
theorem explains_decide (turn : Turn) : turn.Explains turn.decide := by
  unfold decide
  split
  · exact nofun
  split
  · exact nofun
  split
  · exact nofun
  split
  · exact nofun
  split
  · exact trivial
  · exact turn.explains_decideGathering

/-! ## What the table never picks -/

/-- Gathered facts hand nothing off for a flood. -/
theorem factsGathered_ne_flood (turn : Turn) : turn.factsGathered ≠ some (.handoff .flood) := by
  unfold factsGathered
  repeat' split
  all_goals simp

/-- Nor does a guide, or the hold in its place. -/
theorem guideOrHold_ne_flood (turn : Turn) (path : Path) :
    turn.guideOrHold path ≠ some (.handoff .flood) := by
  unfold guideOrHold
  split
  · simp
  · exact turn.factsGathered_ne_flood

/-- Nor does a guidance that is over. -/
theorem decideAfterGuidance_ne_flood (turn : Turn) :
    turn.decideAfterGuidance ≠ .handoff .flood := by
  have courtesy : courtesyOrWait turn.next ≠ .handoff .flood := by
    unfold courtesyOrWait
    split <;> simp
  have gathered : ∀ {action : Action}, turn.factsGathered = some action →
      action ≠ .handoff .flood := by
    intro action haction heq
    exact turn.factsGathered_ne_flood (heq ▸ haction)
  unfold decideAfterGuidance
  split
  · simp
  split
  · simp
  split
  · simp
  split
  · simp
  split
  · next action haction =>
    split at haction
    · exact gathered haction
    · cases haction
  · exact courtesy

/-- The table knows nothing of floods: they are handed off before the judge is asked. -/
theorem decide_ne_flood (turn : Turn) : turn.decide ≠ .handoff .flood := by
  have guided : ∀ {path : Path} {action : Action}, turn.guideOrHold path = some action →
      action ≠ .handoff .flood := by
    intro path action haction heq
    exact turn.guideOrHold_ne_flood path (heq ▸ haction)
  have gathering : turn.decideGathering ≠ .handoff .flood := by
    unfold decideGathering
    split
    · next action haction =>
      split at haction
      · exact guided haction
      · cases haction
    split
    · next action haction =>
      split at haction
      · exact guided haction
      · cases haction
    · exact turn.decideAfterGuidance_ne_flood
  unfold decide
  repeat' split
  all_goals first | exact gathering | simp

end Turn

end Serbero
