import Mathlib.Data.Finset.Basic
import Mathlib.Data.List.AList
import Mathlib.Data.List.DropRight
import Serbero.Lib.LastOf
import Serbero.Runtime.TurnLoop

/-! # Settling bursts into turns

A turn starts one quiet period after the latest party message of a session. The turn loop keeps three
things in memory: the deadlines, the session of each running task, and the sessions that fell due
while their turn ran. This file follows all three, with what happened to each session for the record:
no order of touches, due sessions and ends of turns loses a wake-up. -/

namespace Serbero

open LastOf

/-! ## Deadlines -/

/-- An instant of the monotonic clock. -/
abbrev Instant := Nat

/-- Per-session deadlines. -/
structure Settle where
  quiet : Nat
  deadlines : AList fun _ : SessionId => Instant

namespace Settle

variable (settle : Settle)

def new (quiet : Nat) : Settle := ⟨quiet, ∅⟩

/-- A party message arrived: the session's turn moves to `quiet` from now. -/
def touch (id : SessionId) (now : Instant) : Settle :=
  { settle with deadlines := settle.deadlines.insert id (now + settle.quiet) }

def nextDeadline : Option Instant := (settle.deadlines.entries.map Sigma.snd).min?

/-- The sessions whose turn is due at `now`, in id order. -/
def due (now : Instant) : List SessionId :=
  ((settle.deadlines.entries.filter fun entry => entry.snd ≤ now).map Sigma.fst).mergeSort

/-- The sessions whose turn is due; they are forgotten until their next message. -/
def takeDue (now : Instant) : List SessionId × Settle :=
  (settle.due now,
    { settle with
      deadlines := (settle.due now).foldl (fun deadlines id => deadlines.erase id)
        settle.deadlines })

/-- The deadline of a session. -/
def deadline (id : SessionId) : Option Instant := settle.deadlines.lookup id

/-- The quiet period never changes. -/
@[simp] theorem touch_quiet (id : SessionId) (now : Instant) :
    (settle.touch id now).quiet = settle.quiet := rfl

/-- Nor when the due sessions are taken. -/
@[simp] theorem takeDue_quiet (now : Instant) : (settle.takeDue now).2.quiet = settle.quiet := rfl

/-- At the start no session has a deadline. -/
@[simp] theorem new_deadline (quiet : Nat) (id : SessionId) : (new quiet).deadline id = none := rfl

/-- A touch moves the deadline to one quiet period from now. -/
@[simp] theorem touch_deadline_self (id : SessionId) (now : Instant) :
    (settle.touch id now).deadline id = some (now + settle.quiet) :=
  AList.lookup_insert _

/-- The other sessions keep theirs. -/
theorem touch_deadline_ne {id other : SessionId} (now : Instant) (h : other ≠ id) :
    (settle.touch id now).deadline other = settle.deadline other :=
  AList.lookup_insert_ne h

/-- A session is due once its deadline passed. -/
theorem mem_due {id : SessionId} {now : Instant} :
    id ∈ settle.due now ↔ ∃ deadline, settle.deadline id = some deadline ∧ deadline ≤ now := by
  rw [due, List.mem_mergeSort]
  simp only [List.mem_map, List.mem_filter, decide_eq_true_eq]
  constructor
  · rintro ⟨⟨id, deadline⟩, ⟨hmem, hle⟩, rfl⟩
    exact ⟨deadline, AList.mem_lookup_iff.2 hmem, hle⟩
  · rintro ⟨deadline, hlookup, hle⟩
    exact ⟨⟨id, deadline⟩, ⟨AList.mem_lookup_iff.1 hlookup, hle⟩, rfl⟩

/-- No session is due twice. -/
theorem due_nodup (now : Instant) : (settle.due now).Nodup := by
  rw [due, List.nodup_mergeSort]
  exact settle.deadlines.keys_nodup.sublist (List.filter_sublist.map Sigma.fst)

/-- Erasing keys one after another erases each of them, and no other. -/
theorem lookup_foldl_erase (ids : List SessionId) (deadlines : AList fun _ : SessionId => Instant)
    (id : SessionId) :
    (ids.foldl (fun deadlines id => deadlines.erase id) deadlines).lookup id =
      if id ∈ ids then none else deadlines.lookup id := by
  induction ids generalizing deadlines with
  | nil => simp
  | cons first rest ih =>
    rw [List.foldl_cons, ih]
    by_cases hrest : id ∈ rest
    · simp [hrest]
    · by_cases hfirst : id = first
      · subst hfirst
        simp [hrest]
      · simp [hrest, hfirst, AList.lookup_erase_ne hfirst]

/-- Taking the due sessions forgets their deadlines, and no other. -/
theorem takeDue_deadline (now : Instant) (id : SessionId) :
    (settle.takeDue now).2.deadline id =
      if id ∈ settle.due now then none else settle.deadline id :=
  lookup_foldl_erase _ _ _

end Settle

/-! ## The loop -/

/-- How the task of a turn ended. -/
inductive TurnEnd
  /-- The turn returned: done, deferred or failed. -/
  | returned (outcome : Except String TurnOutcome)
  | panicked

/-- Whether the turn must run again. -/
def TurnEnd.again : TurnEnd → Bool
  | .returned (.ok (.deferred _)) => true
  | .returned _ => false
  | .panicked => true

/-- What happened to a session in the loop. -/
inductive LoopEvent
  | touched (id : SessionId) (now : Instant)
  | started (id : SessionId) (now : Instant)
  | ended (id : SessionId) (how : TurnEnd)

namespace LoopEvent

/-- The instant of a touch of the session. -/
def touchOf (id : SessionId) : LoopEvent → Option Instant
  | touched other now => if other = id then some now else none
  | _ => none

/-- A turn of the session starts. -/
def starts (id : SessionId) : LoopEvent → Bool
  | started other _ => other == id
  | _ => false

/-- The session wants a turn: it was touched, or its turn ended deferred or panicked. -/
def wants (id : SessionId) : LoopEvent → Bool
  | touched other _ => other == id
  | ended other how => other == id && how.again
  | _ => false

end LoopEvent

/-- The instant of the session's last touch. -/
def lastTouch (log : List LoopEvent) (id : SessionId) : Option Instant :=
  lastSome (LoopEvent.touchOf id) log

/-- Since its last turn started, the session was touched, or that turn ended deferred or panicked. -/
def Owed (log : List LoopEvent) (id : SessionId) : Prop :=
  ∃ event ∈ log.rtakeWhile fun event => !event.starts id, event.wants id = true

/-- What `run_turns` keeps in memory. -/
structure TurnLoop where
  settle : Settle
  /-- The spawned tasks not joined yet, each with the session whose turn it runs. -/
  running : List (Nat × SessionId)
  sessionsOf : AList fun _ : Nat => SessionId
  dueAgain : Finset SessionId
  /-- For the record: what happened to the sessions, in order. -/
  log : List LoopEvent

/-- An input of the loop. The runtime picks the id of each task it spawns. -/
inductive LoopInput
  /-- A party message of a session was stored. -/
  | received (id : SessionId) (now : Instant)
  | wake (now : Instant) (taskId : SessionId → Nat)
  /-- A task ended and is joined. -/
  | joined (task : Nat) (how : TurnEnd) (now : Instant)

namespace TurnLoop

variable (loop : TurnLoop)

def touch (id : SessionId) (now : Instant) : TurnLoop :=
  { loop with settle := loop.settle.touch id now, log := loop.log ++ [.touched id now] }

/-- A new task never has the id of one that is still there. -/
def spawn (task : Nat) (id : SessionId) (now : Instant) : Option TurnLoop :=
  if loop.running.any fun entry => entry.1 == task then none
  else some { loop with
    running := loop.running ++ [(task, id)]
    sessionsOf := loop.sessionsOf.insert task id
    log := loop.log ++ [.started id now] }

/-- One due session: its turn starts, or it is due again once its running turn ends. -/
def takeOne (now : Instant) (taskId : SessionId → Nat) (id : SessionId) : Option TurnLoop :=
  if loop.sessionsOf.entries.any fun entry => entry.snd == id then
    some { loop with dueAgain := insert id loop.dueAgain }
  else loop.spawn (taskId id) id now

/-- The deadline passed. -/
def wake (now : Instant) (taskId : SessionId → Nat) : Option TurnLoop :=
  if loop.settle.nextDeadline.any (· ≤ now) then
    let (due, settle) := loop.settle.takeDue now
    due.foldlM (fun loop id => loop.takeOne now taskId id) { loop with settle := settle }
  else none

/-- A task ended: its session is touched again where the turn must run again or fell due meanwhile. -/
def join (task : Nat) (how : TurnEnd) (now : Instant) : Option TurnLoop :=
  match loop.running.find? fun entry => entry.1 == task with
  | none => none
  | some (_, ran) =>
    let joined := { loop with
      running := loop.running.filter fun entry => entry.1 != task
      sessionsOf := loop.sessionsOf.erase task
      log := loop.log ++ [.ended ran how] }
    match loop.sessionsOf.lookup task with
    | none => some joined
    | some id =>
      let forgotten := { joined with dueAgain := loop.dueAgain.erase id }
      if how.again || decide (id ∈ loop.dueAgain) then some (forgotten.touch id now)
      else some forgotten

def step : LoopInput → Option TurnLoop
  | .received id now => some (loop.touch id now)
  | .wake now taskId => loop.wake now taskId
  | .joined task how now => loop.join task how now

/-- The loop as it starts: the pending sessions are scheduled. -/
def start (quiet : Nat) (pending : List (SessionId × Instant)) : TurnLoop :=
  pending.foldl (fun loop entry => loop.touch entry.1 entry.2) ⟨.new quiet, [], ∅, ∅, []⟩

def run (inputs : List LoopInput) : Option TurnLoop :=
  inputs.foldlM step loop

/-- A turn of the session runs. -/
def Runs (id : SessionId) : Prop := id ∈ loop.running.map Prod.snd

/-- The session has a pending deadline, or is marked due again while its turn runs. -/
def Waits (id : SessionId) : Prop :=
  (loop.settle.deadline id).isSome ∨ id ∈ loop.dueAgain ∧ loop.Runs id

end TurnLoop

/-! ## What happened to a session -/

/-- The last event decides the last touch, where it is one. -/
theorem lastTouch_append (log : List LoopEvent) (event : LoopEvent) (id : SessionId) :
    lastTouch (log ++ [event]) id = (event.touchOf id).or (lastTouch log id) :=
  lastSome_append_singleton _ _ _

/-- A turn is owed by the last event or from before, unless it started now. -/
theorem owed_append (log : List LoopEvent) (event : LoopEvent) (id : SessionId) :
    Owed (log ++ [event]) id ↔
      event.starts id = false ∧ (event.wants id = true ∨ Owed log id) := by
  rw [Owed, List.rtakeWhile_concat]
  cases hstarts : event.starts id with
  | true => simp
  | false => simp [Owed, or_comm]

/-- A start that is settled: one quiet period passed since the session's last touch. -/
def SettledStarts (quiet : Nat) (log : List LoopEvent) : Prop :=
  ∀ earlier id now, earlier ++ [.started id now] <+: log →
    ∃ touch, lastTouch earlier id = some touch ∧ touch + quiet ≤ now

/-- A log stays settled when the event added is no start, or a settled one. -/
theorem SettledStarts.append {quiet : Nat} {log : List LoopEvent} {event : LoopEvent}
    (h : SettledStarts quiet log)
    (hstart : ∀ id now, event = .started id now →
      ∃ touch, lastTouch log id = some touch ∧ touch + quiet ≤ now) :
    SettledStarts quiet (log ++ [event]) := by
  intro earlier id now hbegins
  rcases List.prefix_concat_iff.1 hbegins with heq | hlog
  · obtain ⟨rfl, hevent⟩ := List.append_inj' heq rfl
    exact hstart id now (List.singleton_inj.1 hevent).symm
  · exact h earlier id now hlog

namespace TurnLoop

/-! ## The invariant -/

/-- The three structures agree with each other and with what happened. -/
structure Inv (loop : TurnLoop) (quiet : Nat) : Prop where
  period : loop.settle.quiet = quiet
  mapped : ∀ task id, loop.sessionsOf.lookup task = some id ↔ (task, id) ∈ loop.running
  tasks : (loop.running.map Prod.fst).Nodup
  sessions : (loop.running.map Prod.snd).Nodup
  again : ∀ id ∈ loop.dueAgain, loop.Runs id
  deadlines : ∀ id deadline, loop.settle.deadline id = some deadline →
    ∃ touch, lastTouch loop.log id = some touch ∧ touch + quiet = deadline
  starts : SettledStarts quiet loop.log

/-- Some due sessions were taken at `now` and are not handled yet. -/
structure Taking (loop : TurnLoop) (quiet : Nat) (due : List SessionId) (now : Instant) : Prop where
  waits : ∀ id, Owed loop.log id → loop.Waits id ∨ id ∈ due
  settled : ∀ id ∈ due, ∃ touch, lastTouch loop.log id = some touch ∧ touch + quiet ≤ now

variable {loop next : TurnLoop} {quiet : Nat}

/-- The map of running sessions is searched by its values. -/
theorem Inv.hasTurn (h : loop.Inv quiet) (id : SessionId) :
    (loop.sessionsOf.entries.any fun entry => entry.snd == id) = true ↔ loop.Runs id := by
  simp only [List.any_eq_true, beq_iff_eq, Runs, List.mem_map]
  constructor
  · rintro ⟨⟨task, other⟩, hmem, rfl⟩
    exact ⟨(task, other), (h.mapped _ _).1 (AList.mem_lookup_iff.2 hmem), rfl⟩
  · rintro ⟨⟨task, other⟩, hmem, rfl⟩
    exact ⟨⟨task, other⟩, AList.mem_lookup_iff.1 ((h.mapped _ _).2 hmem), rfl⟩

/-- A touch keeps the three structures in agreement. -/
theorem Inv.touch (h : loop.Inv quiet) (id : SessionId) (now : Instant) :
    (loop.touch id now).Inv quiet where
  period := h.period
  mapped := h.mapped
  tasks := h.tasks
  sessions := h.sessions
  again := h.again
  deadlines other deadline hdeadline := by
    rw [TurnLoop.touch, lastTouch_append]
    by_cases hother : other = id
    · subst hother
      have : now + loop.settle.quiet = deadline := by
        simpa [TurnLoop.touch] using hdeadline
      exact ⟨now, by simp [LoopEvent.touchOf], by rw [← h.period, this]⟩
    · have hsame : loop.settle.deadline other = some deadline := by
        rw [← hdeadline]
        exact (loop.settle.touch_deadline_ne now hother).symm
      obtain ⟨touch, htouch, hle⟩ := h.deadlines other deadline hsame
      exact ⟨touch, by simp [LoopEvent.touchOf, Ne.symm hother, htouch], hle⟩
  starts := h.starts.append nofun

/-- Touching a session gives it a deadline, and takes none away. -/
theorem Waits.touch {id other : SessionId} {now : Instant} (h : loop.Waits id ∨ id = other) :
    (loop.touch other now).Waits id := by
  by_cases hsame : id = other
  · subst hsame
    exact Or.inl (by simp [TurnLoop.touch])
  · rcases h.resolve_right hsame with hdeadline | hagain
    · left
      show ((loop.settle.touch other now).deadline id).isSome
      rw [Settle.touch_deadline_ne _ _ hsame]
      exact hdeadline
    · exact Or.inr hagain

/-- A spawn takes a task number that is free, and records the start. -/
theorem spawn_eq_some {task : Nat} {id : SessionId} {now : Instant}
    (h : loop.spawn task id now = some next) :
    task ∉ loop.running.map Prod.fst ∧ next = { loop with
      running := loop.running ++ [(task, id)]
      sessionsOf := loop.sessionsOf.insert task id
      log := loop.log ++ [.started id now] } := by
  rw [spawn] at h
  split at h
  · cases h
  · next hfree =>
    refine ⟨?_, (Option.some.inj h).symm⟩
    intro hmem
    obtain ⟨entry, hentry, rfl⟩ := List.mem_map.1 hmem
    exact hfree (List.any_eq_true.2 ⟨entry, hentry, beq_self_eq_true _⟩)

/-- A turn starts in a task of its own. -/
theorem Inv.spawn {task : Nat} {id : SessionId} {now : Instant} (h : loop.Inv quiet)
    (hidle : ¬loop.Runs id)
    (hsettled : ∃ touch, lastTouch loop.log id = some touch ∧ touch + quiet ≤ now)
    (hspawn : loop.spawn task id now = some next) : next.Inv quiet := by
  obtain ⟨hfresh, rfl⟩ := spawn_eq_some hspawn
  exact {
    period := h.period
    mapped := by
      intro other session
      show (loop.sessionsOf.insert task id).lookup other = some session ↔ _
      -- The new task maps to its session, and no task was called by its name.
      by_cases hother : other = task
      · subst hother
        have hnone : (other, session) ∉ loop.running := fun hmem =>
          hfresh (List.mem_map_of_mem (f := Prod.fst) hmem)
        simp [hnone, eq_comm]
      · rw [AList.lookup_insert_ne hother, h.mapped]
        simp [hother]
    tasks := by
      rw [List.map_append, List.nodup_append]
      refine ⟨h.tasks, by simp, ?_⟩
      intro other hmem named hnamed heq
      obtain rfl : named = task := by simpa using hnamed
      exact hfresh (heq ▸ hmem)
    sessions := by
      rw [List.map_append, List.nodup_append]
      refine ⟨h.sessions, by simp, ?_⟩
      intro other hmem named hnamed heq
      obtain rfl : named = id := by simpa using hnamed
      exact hidle (heq ▸ hmem)
    again := by
      intro other hmem
      have hruns := h.again other hmem
      simp only [Runs, List.map_append, List.mem_append] at hruns ⊢
      exact Or.inl hruns
    -- Starting a turn touches nothing.
    deadlines := by
      intro other deadline hdeadline
      rw [lastTouch_append]
      exact h.deadlines other deadline hdeadline
    starts := by
      refine h.starts.append ?_
      rintro other at' heq
      cases heq
      exact hsettled }

/-- **One due session.** Its turn starts, or it is marked due again while its turn runs. -/
theorem takeOne_inv {id : SessionId} {due : List SessionId} {now : Instant}
    {taskId : SessionId → Nat} (h : loop.Inv quiet) (htaking : loop.Taking quiet (id :: due) now)
    (hnodup : (id :: due).Nodup) (hstep : loop.takeOne now taskId id = some next) :
    next.Inv quiet ∧ next.Taking quiet due now := by
  have hlater : ∀ other ∈ due, other ≠ id := fun other hmem heq =>
    (List.nodup_cons.1 hnodup).1 (heq ▸ hmem)
  rw [takeOne] at hstep
  split at hstep
  · next hany =>
    -- Its turn runs: the session is due again when that turn ends.
    have hruns := (h.hasTurn id).1 hany
    obtain rfl := (Option.some.inj hstep).symm
    refine ⟨{ h with again := ?_ }, ⟨?_, fun other hmem => htaking.settled other (.tail _ hmem)⟩⟩
    · intro other hmem
      rcases Finset.mem_insert.1 hmem with rfl | hbefore
      · exact hruns
      · exact h.again other hbefore
    · intro other howed
      rcases htaking.waits other howed with (hdeadline | ⟨hagain, hother⟩) | hmem
      · exact Or.inl (Or.inl hdeadline)
      · exact Or.inl (Or.inr ⟨Finset.mem_insert_of_mem hagain, hother⟩)
      · rcases List.mem_cons.1 hmem with rfl | hrest
        · exact Or.inl (Or.inr ⟨Finset.mem_insert_self _ _, hruns⟩)
        · exact Or.inr hrest
  · next hany =>
    have hidle : ¬loop.Runs id := fun hruns => hany ((h.hasTurn id).2 hruns)
    refine ⟨h.spawn hidle (htaking.settled id (.head _)) hstep, ?_⟩
    obtain ⟨hfresh, rfl⟩ := spawn_eq_some hstep
    constructor
    · intro other howed
      obtain ⟨hnot, howed⟩ := (owed_append _ _ _).1 howed
      have hne : id ≠ other := by simpa [LoopEvent.starts] using hnot
      replace howed : Owed loop.log other := howed.resolve_left nofun
      rcases htaking.waits other howed with (hdeadline | ⟨hagain, hother⟩) | hmem
      · exact Or.inl (Or.inl hdeadline)
      · refine Or.inl (Or.inr ⟨hagain, ?_⟩)
        simp only [Runs, List.map_append, List.mem_append] at hother ⊢
        exact Or.inl hother
      · exact Or.inr ((List.mem_cons.1 hmem).resolve_left (Ne.symm hne))
    · intro other hmem
      rw [lastTouch_append]
      exact htaking.settled other (.tail _ hmem)

/-- Every due session is handled, in turn. -/
theorem takeAll_inv {due : List SessionId} {now : Instant} {taskId : SessionId → Nat}
    (h : loop.Inv quiet) (htaking : loop.Taking quiet due now) (hnodup : due.Nodup)
    (hstep : due.foldlM (fun loop id => loop.takeOne now taskId id) loop = some next) :
    next.Inv quiet ∧ next.Taking quiet [] now := by
  induction due generalizing loop with
  | nil =>
    obtain rfl := Option.some.inj hstep
    exact ⟨h, htaking⟩
  | cons id rest ih =>
    rw [List.foldlM_cons] at hstep
    obtain ⟨middle, hfirst, hrest⟩ := Option.bind_eq_some_iff.1 hstep
    obtain ⟨hinv, htaking⟩ := takeOne_inv h htaking hnodup hfirst
    exact ih hinv htaking (List.nodup_cons.1 hnodup).2 hrest

/-- No session the loop owes a turn is forgotten. -/
def Remembers (loop : TurnLoop) : Prop := ∀ id, Owed loop.log id → loop.Waits id

/-- **A wake.** The due sessions lose their deadlines; each of them starts or is due again. -/
theorem wake_inv {now : Instant} {taskId : SessionId → Nat} (h : loop.Inv quiet)
    (hremembers : loop.Remembers) (hstep : loop.wake now taskId = some next) :
    next.Inv quiet ∧ next.Remembers := by
  rw [wake] at hstep
  split at hstep
  · have hinv : ({ loop with settle := (loop.settle.takeDue now).2 } : TurnLoop).Inv quiet :=
      { h with
        deadlines := by
          intro id deadline hdeadline
          refine h.deadlines id deadline ?_
          rw [Settle.takeDue_deadline] at hdeadline
          split at hdeadline
          · cases hdeadline
          · exact hdeadline }
    have htaking : ({ loop with settle := (loop.settle.takeDue now).2 } : TurnLoop).Taking quiet
        (loop.settle.due now) now := by
      constructor
      · intro id howed
        -- What is owed is due now, or keeps its deadline, or waits for its turn to end.
        by_cases hdue : id ∈ loop.settle.due now
        · exact Or.inr hdue
        · left
          rcases hremembers id howed with hdeadline | hagain
          · left
            show ((loop.settle.takeDue now).2.deadline id).isSome
            rw [Settle.takeDue_deadline, if_neg hdue]
            exact hdeadline
          · exact Or.inr hagain
      · intro id hdue
        obtain ⟨deadline, hdeadline, hle⟩ := (Settle.mem_due _).1 hdue
        obtain ⟨touch, htouch, rfl⟩ := h.deadlines id deadline hdeadline
        exact ⟨touch, htouch, hle⟩
    obtain ⟨hnext, hleft⟩ := takeAll_inv hinv htaking (loop.settle.due_nodup now) hstep
    exact ⟨hnext, fun id howed => (hleft.waits id howed).resolve_right List.not_mem_nil⟩
  · cases hstep

/-- The tasks that are left once one is joined. -/
theorem mem_filter_task {task : Nat} {running : List (Nat × SessionId)} {entry : Nat × SessionId} :
    entry ∈ running.filter (fun entry => entry.1 != task) ↔ entry ∈ running ∧ entry.1 ≠ task := by
  simp [List.mem_filter]

/-- Joining the task of a session leaves the turns of the other sessions. -/
theorem Inv.runs_filter {task : Nat} {id other : SessionId} (h : loop.Inv quiet)
    (htask : (task, id) ∈ loop.running) :
    other ∈ (loop.running.filter fun entry => entry.1 != task).map Prod.snd ↔
      loop.Runs other ∧ other ≠ id := by
  constructor
  · intro hmem
    obtain ⟨entry, hentry, rfl⟩ := List.mem_map.1 hmem
    obtain ⟨hrunning, hne⟩ := mem_filter_task.1 hentry
    refine ⟨List.mem_map_of_mem hrunning, ?_⟩
    intro hsame
    exact hne (congrArg Prod.fst (List.inj_on_of_nodup_map h.sessions hrunning htask hsame))
  · rintro ⟨hruns, hne⟩
    obtain ⟨entry, hrunning, rfl⟩ := List.mem_map.1 hruns
    refine List.mem_map_of_mem (mem_filter_task.2 ⟨hrunning, ?_⟩)
    intro hsame
    exact hne (congrArg Prod.snd (List.inj_on_of_nodup_map h.tasks hrunning htask hsame))

/-- What a joined task leaves, before its session may be touched again. -/
def ended (loop : TurnLoop) (task : Nat) (id : SessionId) (how : TurnEnd) : TurnLoop :=
  { loop with
    running := loop.running.filter fun entry => entry.1 != task
    sessionsOf := loop.sessionsOf.erase task
    dueAgain := loop.dueAgain.erase id
    log := loop.log ++ [.ended id how] }

/-- A join ends the task's turn, and touches its session where it must run again. -/
theorem join_eq_some {task : Nat} {how : TurnEnd} {now : Instant} (h : loop.Inv quiet)
    (hstep : loop.join task how now = some next) :
    ∃ id, (task, id) ∈ loop.running ∧
      next = if how.again || decide (id ∈ loop.dueAgain) then (loop.ended task id how).touch id now
        else loop.ended task id how := by
  rw [join] at hstep
  split at hstep
  · cases hstep
  · next found id hfind =>
    have hmem := List.mem_of_find?_eq_some hfind
    obtain rfl : found = task := by simpa using List.find?_some hfind
    rw [(h.mapped found id).2 hmem] at hstep
    refine ⟨id, hmem, ?_⟩
    dsimp only at hstep
    split at hstep
    · next hagain => rw [if_pos hagain, ← Option.some.inj hstep, ended]
    · next hagain => rw [if_neg hagain, ← Option.some.inj hstep, ended]

/-- A turn that ended leaves the three structures in agreement. -/
theorem Inv.ended {task : Nat} {id : SessionId} {how : TurnEnd} (h : loop.Inv quiet)
    (htask : (task, id) ∈ loop.running) : (loop.ended task id how).Inv quiet where
  period := h.period
  mapped other session := by
    show (loop.sessionsOf.erase task).lookup other = some session ↔ _
    rw [TurnLoop.ended, mem_filter_task]
    by_cases hother : other = task
    · subst hother
      simp
    · rw [AList.lookup_erase_ne hother, h.mapped]
      simp [hother]
  tasks := h.tasks.sublist (List.filter_sublist.map _)
  sessions := h.sessions.sublist (List.filter_sublist.map _)
  again other hmem := by
    obtain ⟨hne, hagain⟩ := Finset.mem_erase.1 hmem
    exact (h.runs_filter htask).2 ⟨h.again other hagain, hne⟩
  deadlines other deadline hdeadline := by
    rw [TurnLoop.ended, lastTouch_append]
    exact h.deadlines other deadline hdeadline
  starts := h.starts.append nofun

/-- **A join.** A session whose turn must run again, or that fell due meanwhile, is touched. -/
theorem join_inv {task : Nat} {how : TurnEnd} {now : Instant} (h : loop.Inv quiet)
    (hremembers : loop.Remembers) (hstep : loop.join task how now = some next) :
    next.Inv quiet ∧ next.Remembers := by
  obtain ⟨id, htask, rfl⟩ := join_eq_some h hstep
  have hinv : (loop.ended task id how).Inv quiet := h.ended htask
  -- The other sessions keep what they wait for; the joined one may only have a deadline left.
  have hother : ∀ other, Owed loop.log other → other ≠ id → (loop.ended task id how).Waits other := by
    intro other howed hne
    rcases hremembers other howed with hdeadline | ⟨hagain, hruns⟩
    · exact Or.inl hdeadline
    · exact Or.inr ⟨Finset.mem_erase.2 ⟨hne, hagain⟩, (h.runs_filter htask).2 ⟨hruns, hne⟩⟩
  split
  · refine ⟨hinv.touch id now, ?_⟩
    intro other howed
    refine Waits.touch ?_
    by_cases hsame : other = id
    · exact Or.inr hsame
    · left
      obtain ⟨-, howed⟩ := (owed_append _ _ _).1 howed
      have hwants : ¬(LoopEvent.touched id now).wants other = true := by
        simp [LoopEvent.wants, Ne.symm hsame]
      obtain ⟨-, howed⟩ := (owed_append _ _ _).1 (howed.resolve_left hwants)
      have hwants : ¬(LoopEvent.ended id how).wants other = true := by
        simp [LoopEvent.wants, Ne.symm hsame]
      exact hother other (howed.resolve_left hwants) hsame
  · next hagain =>
    simp only [Bool.or_eq_true, decide_eq_true_eq, not_or] at hagain
    refine ⟨hinv, ?_⟩
    intro other howed
    obtain ⟨-, howed⟩ := (owed_append _ _ _).1 howed
    have hwants : ¬(LoopEvent.ended id how).wants other = true := by
      simp [LoopEvent.wants, hagain.1]
    replace howed := howed.resolve_left hwants
    by_cases hsame : other = id
    · -- Not due again, so what it waits for is a deadline.
      rcases hremembers other howed with hdeadline | ⟨hdue, -⟩
      · exact Or.inl hdeadline
      · exact absurd (hsame ▸ hdue) hagain.2
    · exact hother other howed hsame

/-! ## Runs -/

/-- **A touch.** What it makes the loop owe waits for its deadline. -/
theorem touch_inv (h : loop.Inv quiet) (hremembers : loop.Remembers) (id : SessionId)
    (now : Instant) : (loop.touch id now).Inv quiet ∧ (loop.touch id now).Remembers := by
  refine ⟨h.touch id now, ?_⟩
  intro other howed
  refine Waits.touch ?_
  obtain ⟨-, hwants | howed⟩ := (owed_append _ _ _).1 howed
  · exact Or.inr (beq_iff_eq.1 hwants).symm
  · exact Or.inl (hremembers other howed)

/-- **One input**, whichever it is. -/
theorem step_inv {input : LoopInput} (h : loop.Inv quiet) (hremembers : loop.Remembers)
    (hstep : loop.step input = some next) : next.Inv quiet ∧ next.Remembers := by
  cases input with
  | received id now =>
    obtain rfl := Option.some.inj hstep
    exact touch_inv h hremembers id now
  | wake now taskId => exact wake_inv h hremembers hstep
  | joined task how now => exact join_inv h hremembers hstep

/-- **The start** touches the sessions that had messages pending. -/
theorem start_inv (quiet : Nat) (pending : List (SessionId × Instant)) :
    (start quiet pending).Inv quiet ∧ (start quiet pending).Remembers := by
  have hfold : ∀ (pending : List (SessionId × Instant)) (loop : TurnLoop), loop.Inv quiet →
      loop.Remembers →
      (pending.foldl (fun loop entry => loop.touch entry.1 entry.2) loop).Inv quiet ∧
      (pending.foldl (fun loop entry => loop.touch entry.1 entry.2) loop).Remembers := by
    intro pending
    induction pending with
    | nil => exact fun loop h hremembers => ⟨h, hremembers⟩
    | cons entry rest ih =>
      intro loop h hremembers
      obtain ⟨h, hremembers⟩ := touch_inv h hremembers entry.1 entry.2
      exact ih _ h hremembers
  refine hfold pending _ ?_ ?_
  · exact ⟨rfl, by simp, by simp, by simp, by simp, by simp, by simp [SettledStarts]⟩
  · rintro id ⟨event, hmem, -⟩
    simp at hmem

/-- **Any run of inputs**, by induction on them. -/
theorem run_inv {inputs : List LoopInput} (h : loop.Inv quiet) (hremembers : loop.Remembers)
    (hrun : loop.run inputs = some next) : next.Inv quiet ∧ next.Remembers := by
  induction inputs generalizing loop with
  | nil =>
    obtain rfl := Option.some.inj hrun
    exact ⟨h, hremembers⟩
  | cons input rest ih =>
    rw [run, List.foldlM_cons] at hrun
    obtain ⟨middle, hfirst, hrest⟩ := Option.bind_eq_some_iff.1 hrun
    obtain ⟨h, hremembers⟩ := step_inv h hremembers hfirst
    exact ih h hremembers hrest

end TurnLoop

/-- **No wake-up is lost.** After every input, a session has at most one turn running, every turn
that started did so at least one quiet period after its session's last touch, and a session touched
since its last turn started, or whose last turn ended deferred or panicked, has a pending deadline or
is marked due again while its turn runs. -/
theorem turn_scheduling (quiet : Nat) (pending : List (SessionId × Instant))
    (inputs : List LoopInput) (loop : TurnLoop)
    (hrun : (TurnLoop.start quiet pending).run inputs = some loop) :
    (loop.running.map Prod.snd).Nodup ∧ SettledStarts quiet loop.log ∧
      ∀ id, Owed loop.log id → loop.Waits id := by
  obtain ⟨hstart, hremembers⟩ := TurnLoop.start_inv quiet pending
  obtain ⟨h, hremembers⟩ := TurnLoop.run_inv hstart hremembers hrun
  exact ⟨h.sessions, h.starts, hremembers⟩

/-- A message comes in while the turn of its session runs, and falls due before that turn ends: the
session is touched again when it does, and the next turn starts a quiet period later. -/
theorem turn_scheduling_again :
    let inputs : List LoopInput :=
      [.received 1 0, .wake 20 (· + 100), .received 1 25, .wake 45 (· + 200),
        .joined 101 (.returned (.ok (.skipped "session not live"))) 60, .wake 80 (· + 300)]
    ∃ loop, (TurnLoop.start 20 []).run inputs = some loop ∧
      loop.running = [(301, 1)] ∧ SettledStarts 20 loop.log ∧
      ∀ id, Owed loop.log id → loop.Waits id := by
  intro inputs
  have hrunning : ((TurnLoop.start 20 []).run inputs).map TurnLoop.running = some [(301, 1)] := by
    decide +kernel
  obtain ⟨loop, hrun, hloop⟩ := Option.map_eq_some_iff.1 hrunning
  exact ⟨loop, hrun, hloop, (turn_scheduling 20 [] inputs loop hrun).2⟩

end Serbero
