import Serbero.Runtime.Holds
import Serbero.Runtime.Tasks
import Serbero.Runtime.Vocabulary

/-! # What a task saw

A task decides on the store as it read it, and acts on the store as it is by then. What it saw lasts,
whatever the others do. -/

namespace Serbero

open Pool
open Pool.Program

variable {deployment : Deployment} {thread : Thread Task}

/-- The thread once read the store when this was so. -/
def World.Saw (world : World) (number : Nat) (property : Store → Prop) : Prop :=
  ∃ look ∈ world.looks, look.thread = number ∧ property look.store

namespace World.Saw

variable {world later : World} {number : Nat} {property property' : Store → Prop}

/-- What was seen was seen, however often the thread looks again. -/
theorem mono (h : world.Saw number property) (hlooks : world.looks <+: later.looks) :
    later.Saw number property := by
  obtain ⟨look, hlook, hthread, hproperty⟩ := h
  exact ⟨look, hlooks.subset hlook, hthread, hproperty⟩

/-- What was seen implies what follows from it. -/
theorem imp (h : world.Saw number property) (himp : ∀ store, property store → property' store) :
    world.Saw number property' := by
  obtain ⟨look, hlook, hthread, hproperty⟩ := h
  exact ⟨look, hlook, hthread, himp look.store hproperty⟩

end World.Saw

/-- A call adds no look, or the one its thread takes. -/
theorem performCall_looks_cases (deployment : Deployment) {β : Type} (thread : Thread Task)
    (call : Call β) (oracle : Oracle) (world : World) :
    (performCall deployment thread call oracle world).2.looks = world.looks ∨
      (performCall deployment thread call oracle world).2.looks =
        world.looks ++ [⟨thread.number, world.store⟩] := by
  have hmakes := performCall_makes deployment thread call oracle world
  generalize (performCall deployment thread call oracle world).2 = later at hmakes ⊢
  cases hmakes with
  | read => exact Or.inr rfl
  | load => exact Or.inr rfl
  | _ => exact Or.inl rfl

/-- The call reads the store. -/
def Call.looks {β : Type} : Call β → Bool
  | .read _ | .load _ => true
  | _ => false

/-- Any other call is no look. -/
theorem performCall_unlooked (deployment : Deployment) {β : Type} (thread : Thread Task)
    {call : Call β} (hcall : call.looks = false) (oracle : Oracle) (world : World) :
    (performCall deployment thread call oracle world).2.looks = world.looks := by
  have hmakes := performCall_makes deployment thread call oracle world
  generalize (performCall deployment thread call oracle world).2 = later at hmakes ⊢
  cases hmakes with
  | _ => first | rfl | cases hcall

/-- A look is never forgotten. -/
theorem performCall_looks (deployment : Deployment) {β : Type} (thread : Thread Task)
    (call : Call β) (oracle : Oracle) (world : World) :
    world.looks <+: (performCall deployment thread call oracle world).2.looks := by
  rcases performCall_looks_cases deployment thread call oracle world with hsame | hadded
  · exact hsame ▸ List.prefix_rfl
  · rw [hadded]
    exact List.prefix_append _ _

/-! ## The last look -/

/-- The store as the thread read it last. -/
def World.lastLook (world : World) (number : Nat) : Option Store :=
  ((world.looks.filter fun look => look.thread == number).getLast?).map Look.store

/-- Nobody else looks for a thread. -/
theorem lastLook_performCall {β : Type} (call : Call β) (oracle : Oracle) (world : World)
    {number : Nat} (hother : number ≠ thread.number) :
    (performCall deployment thread call oracle world).2.lastLook number = world.lastLook number := by
  unfold World.lastLook
  rcases performCall_looks_cases deployment thread call oracle world with hsame | hadded
  · rw [hsame]
  · have hne : (thread.number == number) = false := by simpa using hother.symm
    rw [hadded, List.filter_append, List.filter_singleton, hne, Bool.cond_false, List.append_nil]

/-- Only threads look. -/
theorem launch_looks {world later : World} (h : launch thread world = some later) :
    later.looks = world.looks := by
  unfold launch at h
  split at h
  all_goals
    first
      | (split at h <;> cases h; rfl)
      | (cases h; rfl)

/-- What happens outside the tasks is no look. -/
theorem happen_looks {happening : Happening} {world later : World}
    (h : happen deployment happening world = some later) : later.looks = world.looks := by
  cases happens_of_happen h with
  | _ => rfl

/-- A look is the thread's last one. -/
theorem World.lastLook_look (world : World) (number : Nat) :
    (world.look number).lastLook number = some world.store := by
  simp [World.lastLook, World.look]

section

variable {condition : Condition Call Task Oracle Happening World}
  {extension : Extension (contract deployment condition)}

/-- What a thread saw, it knows from then on. -/
theorem lasting_saw (property : Store → Prop) :
    extension.news.Lasting thread anyCall fun world => world.Saw thread.number property where
  rely h hrely := h.mono hrely.1.follows.log.looks
  call _ _ _ _ h := h.mono (performCall_looks deployment _ _ _ _)

/-- What a look at the store tells is known, if it lasts. -/
theorem learns_of_lasting {calls : {β : Type} → Call β → Prop} {fact : World → Prop} {α : Type}
    {call : Call α} {query : Store → α} (known : α → World → Prop)
    (hlook : ∀ oracle world, performCall deployment thread call oracle world =
      world.orFail oracle (.ok (query world.store), world.look thread.number))
    (hfact : extension.news.Lasting thread calls fact) (hcall : calls call)
    (hpre : ∀ world, extension.news.inv world → fact world → extension.pre thread call world)
    (hlasting : ∀ value, extension.news.Lasting thread anyCall (known value))
    (hquery : ∀ world, extension.news.inv world → fact world →
      known (query world.store) (world.look thread.number)) :
    extension.news.Learns thread fact (perform call) known := by
  refine .perform hfact.rely hpre ?_
  intro world oracle later hinv hknown hcond hrely _
  refine ⟨hfact.rely (hfact.call hcall hinv (hpre world hinv hknown) hcond hknown) hrely, ?_⟩
  intro value hvalue
  refine (hlasting value).rely ?_ hrely
  change (performCall deployment thread call oracle world).1 = _ at hvalue
  change known value (performCall deployment thread call oracle world).2
  rw [hlook] at hvalue ⊢
  unfold World.orFail at hvalue ⊢
  split at hvalue
  · cases hvalue
  · rw [← Except.ok.inj hvalue]
    exact hquery world hinv hknown

/-- What a call read, the thread saw, with all that held of the store. -/
theorem learns_of_saw {calls : {β : Type} → Call β → Prop} {fact : World → Prop} {α : Type}
    {call : Call α} {query : Store → α} (property : Store → Prop)
    (hlook : ∀ oracle world, performCall deployment thread call oracle world =
      world.orFail oracle (.ok (query world.store), world.look thread.number))
    (hfact : extension.news.Lasting thread calls fact) (hcall : calls call)
    (hpre : ∀ world, extension.news.inv world → fact world → extension.pre thread call world)
    (hproperty : ∀ world, extension.news.inv world → fact world → property world.store) :
    extension.news.Learns thread fact (perform call) fun value world =>
      world.Saw thread.number fun store => property store ∧ query store = value :=
  learns_of_lasting _ hlook hfact hcall hpre (fun _ => lasting_saw _) fun world hinv hknown =>
    ⟨⟨thread.number, world.store⟩, List.mem_append_right _ List.mem_cons_self, rfl,
      hproperty world hinv hknown, rfl⟩

end

end Serbero
