import Serbero.Lib.Companion

/-! # Runs beside a companion

A companion only watches: whatever a machine does it also does beside one. So what is shown of both
with the help of the notes holds of the machine, and a companion that notes nothing lets a machine
use what was developed for both. -/

namespace Pool

open Relation

variable {Call : Type → Type 1} {ε Role Oracle Event World Deed Notes : Type}
  {machine : Machine Call ε Role Oracle Event World}

/-- A condition on the machine, asked beside a companion. -/
def Condition.besides (condition : Condition Call Role Oracle Event World) :
    Condition Call Role Oracle (Event ⊕ Deed) (World × Notes) where
  call thread request oracle world := condition.call thread request oracle world.1
  launch thread oracle world := condition.launch thread oracle world.1
  happen event world := event.elim (fun event => condition.happen event world.1) fun _ => true
  restart oracle world := condition.restart oracle world.1

/-- A condition asked beside a companion allows no more than the machine's. -/
theorem Condition.within_besides (condition : Condition Call Role Oracle Event World) :
    (condition.besides : Condition Call Role Oracle (Event ⊕ Deed) (World × Notes)).Within
      condition :=
  ⟨fun hcall => hcall, fun hlaunch => hlaunch, fun hhappen => hhappen, fun hrestart => hrestart⟩

/-- A configuration with notes. -/
def Conf.noted (conf : Conf Call ε Role World) (notes : Notes) :
    Conf Call ε Role (World × Notes) :=
  ⟨(conf.world, notes), conf.threads⟩

namespace Companion

/-- The companion that notes nothing. -/
def silent (machine : Machine Call ε Role Oracle Event World) : Companion machine Empty Unit where
  call _ _ _ _ _ := ()
  launch _ _ _ _ := ()
  happen _ _ _ := ()
  restart _ _ _ := ()
  deed deed _ _ := nomatch deed

variable (companion : Companion machine Deed Notes)
  {condition : Condition Call Role Oracle Event World}

/-- Each step of the machine is one beside the companion, with whatever it notes. -/
theorem stepsTo_beside {conf conf' : Conf Call ε Role World} (notes : Notes)
    (h : machine.StepsTo condition conf conf') :
    ∃ noted, companion.beside.StepsTo condition.besides (conf.noted notes) (conf'.noted noted) := by
  obtain ⟨choice, hallows, hstep⟩ := h
  cases choice with
  | run number oracle =>
    simp only [Machine.step] at hstep
    split at hstep
    · next role β request next hthread =>
      split at hstep
      · next henabled =>
        cases hstep
        refine ⟨companion.call ⟨number, role⟩ request oracle conf.world notes,
          .run number oracle, ?_, ?_⟩
        · rw [Condition.allows, hthread] at hallows
          rw [Condition.allows, Conf.noted, hthread]
          exact hallows
        · have hboth : companion.beside.enabled request (conf.world, notes) = true := henabled
          simp only [Machine.step, Conf.noted, hthread, hboth, if_true]
          rfl
      · cases hstep
    · cases hstep
  | launch role oracle =>
    obtain ⟨world, hlaunch, rfl⟩ := Option.map_eq_some_iff.mp hstep
    refine ⟨companion.launch ⟨conf.threads.length, role⟩ oracle conf.world notes,
      .launch role oracle, hallows, ?_⟩
    simp only [Machine.step, Conf.noted, Companion.beside, hlaunch, Option.map_some]
  | happen event =>
    obtain ⟨world, hhappen, rfl⟩ := Option.map_eq_some_iff.mp hstep
    refine ⟨companion.happen event conf.world notes, .happen (.inl event), hallows, ?_⟩
    simp only [Machine.step, Conf.noted, Companion.beside, happenBoth, hhappen, Option.map_some]
  | restart oracle =>
    cases hstep
    exact ⟨companion.restart oracle conf.world notes, .restart oracle, hallows, rfl⟩

/-- **Each run of the machine is one beside the companion.** -/
theorem runsTo_beside {conf conf' : Conf Call ε Role World} (notes : Notes)
    (h : machine.RunsTo condition conf conf') :
    ∃ noted, companion.beside.RunsTo condition.besides (conf.noted notes) (conf'.noted noted) := by
  induction h with
  | refl => exact ⟨notes, .refl⟩
  | tail _ hlast ih =>
    obtain ⟨noted, hrun⟩ := ih
    obtain ⟨last, hstep⟩ := companion.stepsTo_beside noted hlast
    exact ⟨last, hrun.tail hstep⟩

end Companion

end Pool
