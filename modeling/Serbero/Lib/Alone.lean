import Serbero.Lib.Pool

/-! # A thread that runs alone

What one thread of a pool does while nothing else happens: its calls one after another, each
answered as the step decides. It is how a run of the pool is built: a stretch of a thread is put
together from the stretches of the programs it is made of, and is then a stretch of a run. -/

namespace Pool

open Program

variable {Call : Type → Type 1} {ε Role Oracle Event World : Type} {α β : Type}

namespace Machine

variable (machine : Machine Call ε Role Oracle Event World)
  (condition : Condition Call Role Oracle Event World) (thread : Thread Role)

/-- Alone, the thread gets from a program and a world to what is left of the program and the world
by then; every call is one that the condition allows. -/
inductive Alone : Program Call ε α → World → Program Call ε α → World → Prop
  | refl (program : Program Call ε α) (world : World) : Alone program world program world
  | call {β : Type} {request : Call β} {next : Except ε β → Program Call ε α} {world world' : World}
      {left : Program Call ε α} (oracle : Oracle)
      (enabled : machine.enabled request world = true)
      (allowed : condition.call thread request oracle world = true)
      (rest : Alone (next (machine.perform thread request oracle world).1)
        (machine.perform thread request oracle world).2 left world') :
      Alone (.call request next) world left world'

namespace Alone

variable {machine condition thread}

/-- One program alone and then another. -/
theorem trans {first second third : Program Call ε α} {a b c : World}
    (h : machine.Alone condition thread first a second b)
    (h' : machine.Alone condition thread second b third c) :
    machine.Alone condition thread first a third c := by
  induction h with
  | refl => exact h'
  | call oracle enabled allowed _ ih => exact .call oracle enabled allowed (ih h')

/-- One call of a program. -/
theorem perform {request : Call β} {next : Except ε β → Program Call ε α} {world : World}
    (oracle : Oracle) (enabled : machine.enabled request world = true)
    (allowed : condition.call thread request oracle world = true) :
    machine.Alone condition thread (.call request next) world
      (next (machine.perform thread request oracle world).1)
      (machine.perform thread request oracle world).2 :=
  .call oracle enabled allowed (.refl _ _)

/-- The first of two programs runs on its own. -/
theorem bind {program left : Program Call ε α} {world world' : World}
    (h : machine.Alone condition thread program world left world')
    (next : α → Program Call ε β) :
    machine.Alone condition thread (program.bind next) world (left.bind next) world' := by
  induction h with
  | refl => exact .refl _ _
  | call oracle enabled allowed _ ih => exact .call oracle enabled allowed ih

/-- A program that is attempted runs as it would. -/
theorem attempt {program left : Program Call ε α} {world world' : World}
    (h : machine.Alone condition thread program world left world') :
    machine.Alone condition thread program.attempt world left.attempt world' := by
  induction h with
  | refl => exact .refl _ _
  | call oracle enabled allowed _ ih => exact .call oracle enabled allowed ih

/-- **What a thread does alone is a run of the pool.** -/
theorem runsTo {conf : Conf Call ε Role World} {program left : Program Call ε Unit}
    {world world' : World} (h : machine.Alone condition thread program world left world')
    (hworld : conf.world = world)
    (hthread : conf.threads[thread.number]? = some (thread.role, program)) :
    machine.RunsTo condition conf
      ⟨world', conf.threads.set thread.number (thread.role, left)⟩ := by
  induction h generalizing conf with
  | refl program world =>
    obtain ⟨hlt, hget⟩ := List.getElem?_eq_some_iff.mp hthread
    rw [← hget, List.set_getElem_self, ← hworld]
    exact .refl
  | @call β request next world world' left oracle enabled allowed _ ih =>
    subst hworld
    have hlt := (List.getElem?_eq_some_iff.mp hthread).1
    -- The step of the pool, and then the rest from where it leads.
    have hrest := @ih ⟨(machine.perform thread request oracle conf.world).2,
      conf.threads.set thread.number (thread.role,
        next (machine.perform thread request oracle conf.world).1)⟩ rfl
      (by rw [List.getElem?_set_self hlt])
    rw [List.set_set] at hrest
    refine .head ⟨.run thread.number oracle, ?_, ?_⟩ hrest
    · simp only [Condition.allows, hthread]
      exact allowed
    · simp only [step, hthread, enabled, if_true]

end Alone

/-- What the program comes to alone, when each call gets the oracle that is named for it: its result
and the world then, if it never waits and meets the condition throughout. -/
def alone (oracle : {β : Type} → Call β → Oracle) :
    Program Call ε α → World → Option (Except ε α × World)
  | .done value, world => some (.ok value, world)
  | .raise failure, world => some (.error failure, world)
  | .call request next, world =>
    if machine.enabled request world && condition.call thread request (oracle request) world then
      alone oracle (next (machine.perform thread request (oracle request) world).1)
        (machine.perform thread request (oracle request) world).2
    else none

/-- What can be computed alone is run alone. -/
theorem alone_of_eq {oracle : {β : Type} → Call β → Oracle} {program : Program Call ε α}
    {world world' : World} {result : Except ε α}
    (h : machine.alone condition thread oracle program world = some (result, world')) :
    machine.Alone condition thread program world (ofExcept result) world' := by
  induction program generalizing world with
  | done value =>
    obtain ⟨rfl, rfl⟩ := Prod.mk.inj (Option.some.inj h)
    exact .refl _ _
  | raise failure =>
    obtain ⟨rfl, rfl⟩ := Prod.mk.inj (Option.some.inj h)
    exact .refl _ _
  | call request next ih =>
    rw [alone] at h
    split at h
    · next hcall =>
      obtain ⟨henabled, hallowed⟩ := Bool.and_eq_true_iff.mp hcall
      exact .call (oracle request) henabled hallowed (ih _ h)
    · cases h

end Machine

end Pool
