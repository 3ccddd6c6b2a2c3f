import Serbero.Basic

/-! # Party templates

The fixed list of texts Serbero may send a party, under the catalog's ids, and the three tables
the policy keeps about them: which ask for a fact, which may be sent again in another language,
and which have a simpler wording. -/

namespace Serbero

/-- The catalog's template ids. -/
inductive Template
  | intro
  | askBuyerSent
  | askBuyerSentSimple
  | askBuyerDetails
  | askSellerReceived
  | askSellerReceivedSimple
  | askSellerCheckAccount
  | whatHappensNext
  | thanksWaiting
  | waitingOtherParty
  | reminder
  | guideArrivedSeller
  | guideArrivedBuyer
  | guideNotSentBuyer
  | guideNotSentSeller
  | resolvedThanks
  | holdNotice
  | handoffNotice
  deriving DecidableEq, Repr

namespace Template

/-- Templates that ask a party for a fact. A turn that sends one counts as a round, and only these
keep a turn from handing off. -/
def questions : List Template :=
  [askBuyerSent, askBuyerSentSimple, askBuyerDetails,
    askSellerReceived, askSellerReceivedSimple, askSellerCheckAccount]

/-- Whether a template asks for a fact. -/
def isQuestion (id : Template) : Bool := questions.contains id

/-- Templates that may be sent again when a party's language changes before it answered. -/
def resendableIds : List Template :=
  [askBuyerSent, askBuyerSentSimple, askBuyerDetails,
    askSellerReceived, askSellerReceivedSimple, askSellerCheckAccount,
    whatHappensNext, thanksWaiting, waitingOtherParty, reminder]

/-- Templates a turn may pick for a party: a question or a courtesy. -/
def isAsked (id : Template) : Bool := resendableIds.contains id && id != reminder

/-- The id of a stored template that may be resent. -/
def resendable (id : Template) : Option Template :=
  resendableIds.find? (· == id)

/-- The simple variant of a question, if it has one. -/
def simpleVariant : Template → Option Template
  | askBuyerSent => some askBuyerSentSimple
  | askSellerReceived => some askSellerReceivedSimple
  | _ => none

/-- A template is resent under its own id. -/
theorem resendable_eq_some {id found : Template} (h : resendable id = some found) :
    found = id := by
  have := List.find?_some h
  simpa using this

/-- A simple variant asks for a fact too. -/
theorem isQuestion_simpleVariant {id simple : Template} (h : simpleVariant id = some simple) :
    simple.isQuestion = true := by
  cases id <;> simp_all [simpleVariant] <;> subst h <;> decide

end Template

end Serbero
