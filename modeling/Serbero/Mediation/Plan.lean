import Serbero.Mediation.History
import Serbero.Mediation.Hold

/-! # One decision of the turn loop

What a turn hands to the policy once the judge answered: the history read from the messages the
turn loaded, the plan computed from it, and the turn record that the decision table reads. -/

namespace Serbero

/-- The `[mediation]` settings a session needs; durations in seconds. -/
structure Settings where
  enabled : Bool
  defaultLanguage : String
  /-- Enabled language codes. -/
  languages : List String
  maxRounds : Nat
  maxMessageChars : Nat
  maxMessagesPerTurn : Nat
  responseTimeout : Nat
  selfResolutionTimeout : Nat
  handoffGrace : Nat
  deriving DecidableEq, Repr

/-- The party wrote at least once. -/
def heard (messages : List Message) (party : Party) : Bool :=
  messages.any fun message => message.isFrom party

/-- The history of a turn in which the languages of the parties in `changed` switched. -/
def turnHistory (messages : List Message) (changed : List Party) : History :=
  let (asked, buyer, seller) := fromMessages messages
  { asked := asked
    buyer := { buyer with languageChanged := changed.contains .buyer }
    seller := { seller with languageChanged := changed.contains .seller } }

/-- What a turn picks for a party may be asked. -/
theorem isAsked_plan (facts : Facts) (messages : List Message) (changed : List Party)
    (party : Party) : ∀ template ∈
      (nextQuestions facts (turnHistory messages changed)).templates party,
        template.isAsked = true := by
  refine isAsked_nextQuestions (fun other question hquestion => ?_) party
  cases other with
  | buyer => exact isQuestion_lastQuestion hquestion
  | seller => exact isQuestion_lastQuestion hquestion

/-- Everything the decision of one turn reads. -/
def turnOf (settings : Settings) (validatedLanguages : List String) (phase : Phase)
    (session : Session) (messages : List Message) (events : List Event) (facts : Facts)
    (changed : List Party) : Turn :=
  { phase := phase
    facts := facts
    buyerLanguage := session.language .buyer settings.defaultLanguage
    sellerLanguage := session.language .seller settings.defaultLanguage
    validatedLanguages := validatedLanguages
    buyerRounds := session.buyerRounds
    sellerRounds := session.sellerRounds
    maxRounds := settings.maxRounds
    asked := (turnHistory messages changed).asked
    next := nextQuestions facts (turnHistory messages changed)
    buyerHeard := heard messages .buyer
    sellerHeard := heard messages .seller
    held := (Hold.current session.sessionId events messages).isSome
    handoffGrace := settings.handoffGrace }

end Serbero
