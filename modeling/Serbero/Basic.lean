import Mathlib.Data.Fintype.Defs
import Mathlib.Data.List.Sort
import Mathlib.Order.Basic

/-! # The words every other module shares

Parties, message directions, session states, dispute life cycles and statuses, and the 64-bit
arithmetic of the timers. Ids of disputes and sessions are UUID texts in the source; only their
equality is ever looked at, so here they are numbers. Times are whole Unix seconds. -/

namespace Serbero

/-- The id of a Mostro dispute. -/
abbrev DisputeId := Nat

/-- The id of a mediation session. -/
abbrev SessionId := Nat

/-- The two parties of a trade. -/
inductive Party
  | buyer
  | seller
  deriving DecidableEq, Repr

namespace Party

/-- The name used in question ids, in the store and in the judge's state. -/
def name : Party → String
  | buyer => "buyer"
  | seller => "seller"

/-- The party on the other side of the trade. -/
def other : Party → Party
  | buyer => seller
  | seller => buyer

/-- Both parties, in the order the source walks them. -/
def both : List Party := [buyer, seller]

/-- There are two parties. -/
@[simp] theorem mem_both (party : Party) : party ∈ both := by
  cases party <;> decide

instance : Fintype Party := ⟨⟨both, by decide⟩, mem_both⟩

end Party

/-- Whether a stored message came from a party or from Serbero (`in` / `out` in the store). -/
inductive Direction
  | inbound
  | outbound
  deriving DecidableEq, Repr

/-- Where a mediation session is. -/
inductive SessionState
  | opening
  | active
  | guiding
  | handedOff
  | closed
  | superseded
  deriving DecidableEq, Repr

namespace SessionState

/-- Closed and superseded sessions never change again. -/
def isTerminal : SessionState → Bool
  | closed | superseded => true
  | _ => false

/-- Serbero still mediates the session: it was neither handed off nor ended. -/
def isMediating : SessionState → Bool
  | opening | active | guiding => true
  | _ => false

/-- The stage of a session's life; both terminal states are the last one. -/
def stage : SessionState → Nat
  | opening => 0
  | active => 1
  | guiding => 2
  | handedOff => 3
  | closed | superseded => 4

end SessionState

/-- The statuses a Mostro dispute event may carry. -/
inductive DisputeStatus
  | initiated
  | inProgress
  | settled
  | sellerRefunded
  | released
  | cooperativelyCanceled
  deriving DecidableEq, Repr

namespace DisputeStatus

/-- Final statuses: a solver or the parties closed the dispute. -/
def isFinal : DisputeStatus → Bool
  | initiated | inProgress => false
  | _ => true

/-- Final statuses reached without a solver's decision. -/
def resolvedByParties : DisputeStatus → Bool
  | released | cooperativelyCanceled => true
  | _ => false

end DisputeStatus

/-- The notification life cycle of a dispute. -/
inductive Lifecycle
  | new
  | notified
  | taken
  | resolved
  deriving DecidableEq, Repr

/-- Who opened a dispute; Mostro publishes `unknown` when its own flags disagree. -/
inductive Initiator
  | buyer
  | seller
  | unknown
  deriving DecidableEq, Repr

/-! ## 64-bit seconds -/

/-- The largest signed 64-bit integer. -/
def i64Max : Int := 9223372036854775807

/-- The smallest signed 64-bit integer. -/
def i64Min : Int := -9223372036854775808

/-- `i64::saturating_add`. -/
def saturatingAdd (a b : Int) : Int := max i64Min (min i64Max (a + b))

/-- A configured duration (whole seconds) as an `i64`. -/
def secs (duration : Nat) : Int := min (duration : Int) i64Max

end Serbero
