import Mathlib.Data.List.Induction
import Mathlib.Data.List.Nodup
import Mathlib.Data.List.TakeWhile
import Mathlib.Tactic.Linarith

/-! # Observer notices

Mediation queues a notice in the transaction that records what it reports; one task delivers the
queue. The queue is the audit log itself: who has a notice, how often its delivery failed and when is
read again from the rows of the last day by every call. -/

namespace Serbero

/-! ## The rows -/

/-- What an observer is told: the subject of a dispute's update. -/
structure Notice where
  disputeId : String
  observer : Nat
  subject : String
  deriving DecidableEq, Repr

inductive ObserverKind
  | pending
  | notified
  | failed (error : String)
  deriving DecidableEq, Repr

namespace ObserverKind

def isPending : ObserverKind → Bool
  | pending => true
  | _ => false

def isNotified : ObserverKind → Bool
  | notified => true
  | _ => false

def isFailed : ObserverKind → Bool
  | failed _ => true
  | _ => false

end ObserverKind

/-- A row about a notice in the audit log. -/
structure ObserverEvent extends Notice where
  kind : ObserverKind
  createdAt : Int
  deriving DecidableEq, Repr

/-- An observer notice queued and not delivered yet. -/
structure ObserverNotice extends Notice where
  failures : Nat
  lastFailure : Option Int
  deriving DecidableEq, Repr

/-- A notice still undelivered a day after it was queued is dropped. -/
def retryWindowSecs : Int := 24 * 3600

/-- The wait after a failed attempt: a minute, doubling up to an hour. -/
def retryBaseSecs : Nat := 60

def retryMaxSecs : Nat := 3600

/-- What an observer receives: a solver message's first line. -/
def header (disputeId subject : String) : String := s!"Dispute {disputeId} · {subject}"

def isOneToken (id : String) : Bool :=
  !id.isEmpty && id.toList.all fun c => c.isAlphanum || c == '-'

/-- Whether the notice is already queued. -/
def observerQueued (events : List ObserverEvent) (notice : Notice) : Bool :=
  events.any fun event => event.kind.isPending && event.toNotice == notice

/-- Queues a notice the observer does not have queued yet. -/
def queueOne (now : Int) (events : List ObserverEvent) (notice : Notice) : List ObserverEvent :=
  if observerQueued events notice then events else events ++ [⟨notice, .pending, now⟩]

/-- Queues `subject` for every observer that does not have it queued yet. Returns whether anything was
queued. -/
def queue (events : List ObserverEvent) (observers : List Nat) (disputeId subject : String)
    (now : Int) : Bool × List ObserverEvent :=
  if observers.isEmpty then (false, events)
  else if !isOneToken disputeId then (false, events)
  else
    let notices := observers.map fun observer => ⟨disputeId, observer, subject⟩
    let queued := notices.foldl (queueOne now) events
    (events.length < queued.length, queued)

/-- The instants of a notice's rows of some kind, in log order. -/
def timesOf (kind : ObserverKind → Bool) (notice : Notice) (events : List ObserverEvent) : List Int :=
  (events.filter fun event => kind event.kind && event.toNotice == notice).map
    ObserverEvent.createdAt

/-- Observer notices queued since `since` and not delivered, oldest first, with their failed
attempts. -/
def pendingObserverNotices (events : List ObserverEvent) (since : Int) : List ObserverNotice :=
  let recent := events.filter fun event => decide (since ≤ event.createdAt)
  let queued := recent.filter fun event => event.kind.isPending
  let undelivered := queued.filter fun event =>
    (timesOf ObserverKind.isNotified event.toNotice recent).isEmpty
  undelivered.map fun event =>
    let failures := timesOf ObserverKind.isFailed event.toNotice recent
    ⟨event.toNotice, failures.length, failures.max?⟩

/-- Whether a notice with `failures` failed attempts, the last at `lastFailure`, may be tried again. -/
def due (failures : Nat) (lastFailure : Option Int) (now : Int) : Bool :=
  let doublings := min (failures - 1) 6
  let wait := min (retryBaseSecs <<< doublings) retryMaxSecs
  lastFailure.all fun at' => decide ((wait : Int) ≤ now - at')

/-! ## The queue and its deliverer -/

/-- A DM an observer received. -/
structure ObserverDm where
  notice : Notice
  text : String
  deriving DecidableEq, Repr

/-- An attempt to deliver a notice, with the log and the configured observers then. -/
structure Attempt where
  notice : Notice
  now : Int
  observers : List Nat
  log : List ObserverEvent

/-- A call of `deliver_due`. -/
structure Delivery where
  observers : List Nat
  now : Int
  /-- The notices it has not come to yet. -/
  notices : List ObserverNotice
  /-- The notice it waits for a relay with. -/
  sending : Option ObserverNotice
  delivered : Nat
  /-- For the record: the log it read. -/
  before : List ObserverEvent
  /-- For the record: the notices it attempted. -/
  attempted : List Notice

/-- The log, the delivery under way, and what happened so far. -/
structure ObserverQueue where
  events : List ObserverEvent
  /-- The time of the newest call. -/
  clock : Int
  delivering : Option Delivery
  /-- For the record: the attempts, in order. -/
  attempts : List Attempt
  /-- For the record: the DMs that went out, in order. -/
  sent : List ObserverDm
  /-- For the record: the deliveries that are over. -/
  ended : List Delivery

/-- One thing that happens to the queue. -/
inductive ObserverStep
  | queue (observers : List Nat) (disputeId subject : String) (now : Int)
  /-- `deliver_due` is called. -/
  | deliver (observers : List Nat) (now : Int)
  /-- The send the delivery waits for ends. -/
  | answered (result : Except String Unit)
  /-- The process starts again, between two deliveries. -/
  | restart

/-- The delivery sends a notice to a configured observer once it is due. -/
def Delivery.sends (delivery : Delivery) (notice : ObserverNotice) : Bool :=
  delivery.observers.contains notice.observer &&
    due notice.failures notice.lastFailure delivery.now

namespace ObserverQueue

variable (queue : ObserverQueue)

def start (clock : Int) : ObserverQueue := ⟨[], clock, none, [], [], []⟩

/-- The delivery passes over the notices it does not send, until one it does or the end. -/
def advance (delivery : Delivery) : ObserverQueue :=
  match delivery.notices.dropWhile fun notice => !delivery.sends notice with
  | [] =>
    { queue with
      delivering := none
      ended := queue.ended ++ [{ delivery with notices := [], sending := none }] }
  | notice :: rest =>
    { queue with
      delivering := some { delivery with
        notices := rest
        sending := some notice
        attempted := delivery.attempted ++ [notice.toNotice] }
      attempts := queue.attempts ++
        [⟨notice.toNotice, delivery.now, delivery.observers, queue.events⟩] }

def deliver (observers : List Nat) (now : Int) : ObserverQueue :=
  let notices := pendingObserverNotices queue.events (now - retryWindowSecs)
  advance { queue with clock := now } ⟨observers, now, notices, none, 0, queue.events, []⟩

/-- The outcome of the send is recorded. -/
def answered (delivery : Delivery) (notice : ObserverNotice) (result : Except String Unit) :
    ObserverQueue :=
  match result with
  | .ok () =>
    advance { queue with
      events := queue.events ++ [⟨notice.toNotice, .notified, delivery.now⟩]
      sent := queue.sent ++ [⟨notice.toNotice, header notice.disputeId notice.subject⟩] }
      { delivery with sending := none, delivered := delivery.delivered + 1 }
  | .error error =>
    advance { queue with
      events := queue.events ++ [⟨notice.toNotice, .failed error, delivery.now⟩] }
      { delivery with sending := none }

def step : ObserverStep → Option ObserverQueue
  | .queue observers disputeId subject now =>
    if queue.clock ≤ now then
      some { queue with
        clock := now
        events := (Serbero.queue queue.events observers disputeId subject now).2 }
    else none
  | .deliver observers now =>
    if queue.delivering.isNone && decide (queue.clock ≤ now) then
      some (queue.deliver observers now)
    else none
  | .answered result =>
    match queue.delivering with
    | none => none
    | some delivery => delivery.sending.map fun notice => queue.answered delivery notice result
  | .restart => if queue.delivering.isNone then some queue else none

def run (steps : List ObserverStep) : Option ObserverQueue :=
  steps.foldlM step queue

end ObserverQueue

/-! ## The law -/

/-- The wait after the failure with this index. -/
def backoff (k : Nat) : Int := min (60 * 2 ^ k) 3600

/-- After every failure its wait has passed. -/
def Paced (failures : List Int) (now : Int) : Prop :=
  ∀ k (at' : Int), failures[k]? = some at' → at' + backoff k ≤ now

/-- The wait after the last failure has passed. -/
def PastWait (failures : List Int) (now : Int) : Prop :=
  ∀ at' : Int, failures.getLast? = some at' → at' + backoff (failures.length - 1) ≤ now

/-- The notice was queued within the day before `now`. -/
def InDay (events : List ObserverEvent) (notice : Notice) (now : Int) : Prop :=
  ∃ queuedAt ∈ timesOf ObserverKind.isPending notice events,
    queuedAt ≤ now ∧ now ≤ queuedAt + retryWindowSecs

/-- An attempt for a configured observer, in the notice's day, with every wait passed. -/
structure Attempt.Sound (attempt : Attempt) : Prop where
  configured : attempt.notice.observer ∈ attempt.observers
  inDay : InDay attempt.log attempt.notice attempt.now
  paced : Paced (timesOf ObserverKind.isFailed attempt.notice attempt.log) attempt.now

/-- A notice a call has to attempt: undelivered, in its day, for a configured observer and past its
wait. -/
structure Delivery.Owes (delivery : Delivery) (notice : Notice) : Prop where
  configured : notice.observer ∈ delivery.observers
  undelivered : timesOf ObserverKind.isNotified notice delivery.before = []
  inDay : InDay delivery.before notice delivery.now
  pastWait : PastWait (timesOf ObserverKind.isFailed notice delivery.before) delivery.now

/-- What the queue promises. -/
structure ObserverQueue.Law (queue : ObserverQueue) : Prop where
  queuedOnce : ∀ notice, (timesOf ObserverKind.isPending notice queue.events).length ≤ 1
  deliveredOnce : ∀ notice, (queue.sent.map ObserverDm.notice).count notice ≤ 1
  attempts : ∀ attempt ∈ queue.attempts, attempt.Sound
  next : ∀ delivery ∈ queue.ended, ∀ notice, delivery.Owes notice → notice ∈ delivery.attempted

/-! ## Waits -/

/-- A notice may be tried again exactly when the doubled wait, capped at an hour, has passed. -/
theorem due_iff (failures : Nat) (lastFailure : Option Int) (now : Int) :
    due failures lastFailure now = true ↔
      ∀ at' : Int, lastFailure = some at' → at' + backoff (failures - 1) ≤ now := by
  have hwait : ((min (retryBaseSecs <<< min (failures - 1) 6) retryMaxSecs : Nat) : Int) =
      backoff (failures - 1) := by
    rw [backoff, Nat.shiftLeft_eq, retryBaseSecs, retryMaxSecs]
    by_cases hsmall : failures - 1 ≤ 6
    · rw [min_eq_left hsmall]
      push_cast
      rfl
    · -- Past six doublings the cap decides, with the shift capped or not.
      have hpow : 2 ^ 6 ≤ 2 ^ (failures - 1) :=
        Nat.pow_le_pow_right (by omega) (by omega)
      have hlarge : (3840 : Int) ≤ 60 * 2 ^ (failures - 1) := by
        have : (2 ^ 6 : Int) ≤ 2 ^ (failures - 1) := by exact_mod_cast hpow
        omega
      rw [min_eq_right (by omega : 6 ≤ failures - 1), min_eq_right (by omega : (3600 : Int) ≤ _)]
      rfl
  cases lastFailure with
  | none => simp [due]
  | some at' =>
    rw [due, hwait]
    simp only [Option.all_some, decide_eq_true_eq, Option.some.injEq, forall_eq']
    omega

/-- No wait is negative. -/
theorem backoff_nonneg (k : Nat) : 0 ≤ backoff k := by
  rw [backoff, le_min_iff]
  exact ⟨by positivity, by omega⟩

/-- Every failure came after the waits of the failures before it. -/
def Spaced (failures : List Int) : Prop :=
  ∀ (earlier : List Int) (at' : Int), earlier ++ [at'] <+: failures → Paced earlier at'

/-- One failure more, after its wait. -/
theorem Spaced.append {failures : List Int} {at' : Int} (h : Spaced failures)
    (hpaced : Paced failures at') : Spaced (failures ++ [at']) := by
  intro earlier last hbegins
  rcases List.prefix_concat_iff.1 hbegins with heq | hbefore
  · obtain ⟨rfl, hlast⟩ := List.append_inj' heq rfl
    obtain rfl := List.singleton_inj.1 hlast
    exact hpaced
  · exact h earlier last hbefore

/-- Before the last failure they were spaced, and it came after its wait. -/
theorem Spaced.of_append {failures : List Int} {at' : Int} (h : Spaced (failures ++ [at'])) :
    Spaced failures ∧ Paced failures at' :=
  ⟨fun earlier last hbegins => h earlier last (hbegins.trans (List.prefix_append _ _)),
    h failures at' List.prefix_rfl⟩

/-- An attempt after its wait is after every failure. -/
theorem Paced.le {failures : List Int} {now at' : Int} (h : Paced failures now)
    (hmem : at' ∈ failures) : at' ≤ now := by
  obtain ⟨k, hk⟩ := List.getElem?_of_mem hmem
  have := h k at' hk
  have := backoff_nonneg k
  omega

/-- The newest failure is the last one. -/
theorem Spaced.max {failures : List Int} (h : Spaced failures) :
    failures.max? = failures.getLast? := by
  induction failures using List.reverseRecOn with
  | nil => rfl
  | append_singleton failures at' ih =>
    obtain ⟨-, hpaced⟩ := h.of_append
    rw [List.getLast?_concat, List.max?_eq_some_iff]
    refine ⟨by simp, ?_⟩
    intro other hmem
    rcases List.mem_append.1 hmem with hbefore | hlast
    · exact hpaced.le hbefore
    · exact (List.mem_singleton.1 hlast).le

/-- Among spaced failures, only the wait after the last one is left to check. -/
theorem Spaced.paced {failures : List Int} {now : Int} (h : Spaced failures)
    (hpast : PastWait failures now) : Paced failures now := by
  induction failures using List.reverseRecOn with
  | nil => exact fun k at' hk => by simp at hk
  | append_singleton failures last ih =>
    obtain ⟨-, hpaced⟩ := h.of_append
    have hlast := hpast last (by simp)
    rw [List.length_append, List.length_singleton, Nat.add_sub_cancel] at hlast
    intro k at' hk
    rcases Nat.lt_trichotomy k failures.length with hlt | heq | hgt
    · rw [List.getElem?_append_left hlt] at hk
      have := hpaced k at' hk
      have := backoff_nonneg failures.length
      omega
    · subst heq
      obtain rfl : last = at' := by simpa using hk
      exact hlast
    · have hlength : (failures ++ [last]).length ≤ k := by
        rw [List.length_append, List.length_singleton]
        omega
      rw [List.getElem?_eq_none hlength] at hk
      cases hk

/-- What `due` is asked about the log says that the last wait has passed. -/
theorem due_iff_pastWait {failures : List Int} {now : Int} (h : Spaced failures) :
    due failures.length failures.max? now = true ↔ PastWait failures now := by
  rw [due_iff, h.max]
  rfl

/-! ## The rows of a notice -/

/-- The times of one row more. -/
theorem timesOf_append (kind : ObserverKind → Bool) (notice : Notice) (events : List ObserverEvent)
    (event : ObserverEvent) :
    timesOf kind notice (events ++ [event]) = timesOf kind notice events ++
      if kind event.kind && event.toNotice == notice then [event.createdAt] else [] := by
  rw [timesOf, timesOf, List.filter_append, List.map_append]
  by_cases h : (kind event.kind && event.toNotice == notice) = true
  · simp [h]
  · simp [h]

/-- A time is one of a row about the notice. -/
theorem mem_timesOf {kind : ObserverKind → Bool} {notice : Notice} {events : List ObserverEvent}
    {at' : Int} :
    at' ∈ timesOf kind notice events ↔
      ∃ event ∈ events, kind event.kind = true ∧ event.toNotice = notice ∧ event.createdAt = at' := by
  simp [timesOf, and_assoc]

/-- The recent rows are the ones at or after `since`. -/
theorem timesOf_recent (kind : ObserverKind → Bool) (notice : Notice) (events : List ObserverEvent)
    (since : Int) :
    timesOf kind notice (events.filter fun event => decide (since ≤ event.createdAt)) =
      (timesOf kind notice events).filter fun at' => decide (since ≤ at') := by
  rw [timesOf, timesOf, List.filter_map, List.filter_comm]
  rfl

/-- A notice is queued once, its attempts come after, and its failures are spaced. -/
structure LogInv (events : List ObserverEvent) : Prop where
  once : ∀ notice, (timesOf ObserverKind.isPending notice events).length ≤ 1
  after : ∀ notice at', at' ∈ timesOf ObserverKind.isFailed notice events ∨
    at' ∈ timesOf ObserverKind.isNotified notice events →
    ∃ queuedAt ∈ timesOf ObserverKind.isPending notice events, queuedAt ≤ at'
  spaced : ∀ notice, Spaced (timesOf ObserverKind.isFailed notice events)

variable {events : List ObserverEvent} {notice : Notice} {since now : Int}

/-- The window of the query leaves out no attempt of a notice queued in it. -/
theorem LogInv.recent (h : LogInv events) {queuedAt : Int}
    (hqueued : queuedAt ∈ timesOf ObserverKind.isPending notice events) (hsince : since ≤ queuedAt)
    {kind : ObserverKind → Bool} (hkind : kind = ObserverKind.isFailed ∨ kind = ObserverKind.isNotified) :
    timesOf kind notice (events.filter fun event => decide (since ≤ event.createdAt)) =
      timesOf kind notice events := by
  rw [timesOf_recent, List.filter_eq_self]
  intro at' hmem
  have hattempt : at' ∈ timesOf ObserverKind.isFailed notice events ∨
      at' ∈ timesOf ObserverKind.isNotified notice events := by
    rcases hkind with rfl | rfl
    · exact Or.inl hmem
    · exact Or.inr hmem
  obtain ⟨first, hfirst, hle⟩ := h.after notice at' hattempt
  have hsame : first = queuedAt := by
    have hone := h.once notice
    obtain ⟨only, honly⟩ := List.length_eq_one_iff.1
      (le_antisymm hone (List.length_pos_of_mem hqueued))
    rw [honly, List.mem_singleton] at hfirst hqueued
    rw [hfirst, hqueued]
  subst hsame
  simp only [decide_eq_true_eq]
  omega

/-- What the query returns for a notice. -/
theorem LogInv.of_mem (h : LogInv events) {pending : ObserverNotice}
    (hmem : pending ∈ pendingObserverNotices events since) :
    (∃ queuedAt ∈ timesOf ObserverKind.isPending pending.toNotice events, since ≤ queuedAt) ∧
      timesOf ObserverKind.isNotified pending.toNotice events = [] ∧
      pending.failures = (timesOf ObserverKind.isFailed pending.toNotice events).length ∧
      pending.lastFailure = (timesOf ObserverKind.isFailed pending.toNotice events).max? := by
  obtain ⟨event, hevent, rfl⟩ := List.mem_map.1 hmem
  simp only [List.mem_filter, decide_eq_true_eq, List.isEmpty_iff] at hevent
  obtain ⟨⟨⟨hrow, hsince⟩, hpending⟩, hnone⟩ := hevent
  have hqueued : event.createdAt ∈ timesOf ObserverKind.isPending event.toNotice events :=
    mem_timesOf.2 ⟨event, hrow, hpending, rfl, rfl⟩
  have hfailed := h.recent hqueued hsince (Or.inl rfl)
  have hnotified := h.recent hqueued hsince (Or.inr rfl)
  refine ⟨⟨_, hqueued, hsince⟩, ?_, ?_, ?_⟩
  · rw [← hnotified]
    exact hnone
  · show (timesOf ObserverKind.isFailed event.toNotice _).length = _
    rw [hfailed]
  · show (timesOf ObserverKind.isFailed event.toNotice _).max? = _
    rw [hfailed]

/-- The query returns every notice queued in its window and not delivered. -/
theorem LogInv.mem_of_queued (h : LogInv events) {queuedAt : Int}
    (hqueued : queuedAt ∈ timesOf ObserverKind.isPending notice events) (hsince : since ≤ queuedAt)
    (hnone : timesOf ObserverKind.isNotified notice events = []) :
    ∃ pending ∈ pendingObserverNotices events since, pending.toNotice = notice := by
  obtain ⟨event, hrow, hpending, rfl, rfl⟩ := mem_timesOf.1 hqueued
  refine ⟨_, List.mem_map_of_mem (f := fun event : ObserverEvent =>
    (⟨event.toNotice, _, _⟩ : ObserverNotice)) (a := event) ?_, rfl⟩
  simp only [List.mem_filter, decide_eq_true_eq, List.isEmpty_iff]
  refine ⟨⟨⟨hrow, hsince⟩, hpending⟩, ?_⟩
  rw [h.recent hqueued hsince (Or.inr rfl)]
  exact hnone

/-- The query returns each notice once. -/
theorem LogInv.pending_nodup (h : LogInv events) :
    ((pendingObserverNotices events since).map ObserverNotice.toNotice).Nodup := by
  have hqueued : ((events.filter fun event => event.kind.isPending).map
      ObserverEvent.toNotice).Nodup := by
    rw [List.nodup_iff_count_le_one]
    intro notice
    have hcount : ((events.filter fun event => event.kind.isPending).map
        ObserverEvent.toNotice).count notice =
          (timesOf ObserverKind.isPending notice events).length := by
      rw [timesOf, List.length_map, List.count_eq_countP, List.countP_map, List.countP_filter,
        List.countP_eq_length_filter]
      congr 1
      refine List.filter_congr fun event _ => ?_
      simp [Bool.and_comm]
    rw [hcount]
    exact h.once notice
  rw [pendingObserverNotices, List.map_map]
  refine hqueued.sublist ?_
  refine List.Sublist.map _ (List.filter_sublist.trans ?_)
  rw [List.filter_comm]
  exact List.filter_sublist

end Serbero
