import Serbero.Policy.Template

/-! # What a turn can decide

The actions of the decision table, the two self-resolution paths and the reasons for which a
session goes to a human. -/

namespace Serbero

/-- A self-resolution path. -/
inductive Path
  /-- The seller says the fiat arrived. -/
  | paymentArrived
  /-- The buyer says they have not paid. -/
  | paymentNotSent
  deriving DecidableEq, Repr

/-- The name used in solver messages and the store. -/
def Path.asStr : Path → String
  | paymentArrived => "payment_arrived"
  | paymentNotSent => "payment_not_sent"

/-- Why a session goes to a human. -/
inductive HandoffReason
  | selfResolutionStalled
  | factsGathered
  | conflictingClaims
  | fraudSignal
  | humanRequested
  | outsideScope
  | unresponsive
  | roundLimit
  | uncertain
  | judgeUnavailable
  | flood
  /-- Serbero took the dispute but could not reach the parties. -/
  | openingFailed
  deriving DecidableEq, Repr

/-- The name used in solver messages and the store. -/
def HandoffReason.asStr : HandoffReason → String
  | selfResolutionStalled => "self_resolution_stalled"
  | factsGathered => "facts_gathered"
  | conflictingClaims => "conflicting_claims"
  | fraudSignal => "fraud_signal"
  | humanRequested => "human_requested"
  | outsideScope => "outside_scope"
  | unresponsive => "unresponsive"
  | roundLimit => "round_limit"
  | uncertain => "uncertain"
  | judgeUnavailable => "judge_unavailable"
  | flood => "flood"
  | openingFailed => "opening_failed"

/-- What Serbero does after a turn. -/
inductive Action
  /-- Send these templates, in order, to each party. -/
  | ask (buyer seller : List Template)
  /-- Explain a self-resolution path to both parties. -/
  | guide (path : Path)
  /-- Brief the solver and send the parties the hand-off notice. -/
  | handoff (reason : HandoffReason)
  /-- The facts are gathered: tell both parties and give them `handoff_grace`. -/
  | hold
  /-- Nothing to send. -/
  | wait
  deriving DecidableEq, Repr

/-- Where a live session is: gathering facts, or watching after guidance. -/
inductive Phase
  | gathering
  | guiding
  deriving DecidableEq, Repr

/-- What a brief is about. -/
inductive Subject
  | handoff (reason : HandoffReason)
  | guide (path : Path)
  deriving DecidableEq, Repr

/-- The action a brief of this subject is judged for. -/
def Subject.action : Subject → Action
  | handoff reason => .handoff reason
  | guide path => .guide path

/-- What follows the dispute id on the brief's first line. -/
def Subject.text : Subject → String
  | handoff reason => "handed off: " ++ reason.asStr
  | guide path => "guidance sent: " ++ path.asStr

end Serbero
