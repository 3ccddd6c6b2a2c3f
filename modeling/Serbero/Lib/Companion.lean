import Serbero.Lib.Extension

/-! # A companion beside a machine

What watches a pool of programs and keeps notes of its own: the state of something that only reads
the world, or a history of the steps that no world holds. The machine never reads the notes, so
whatever it does beside its companion it does alone, and a contract of the machine is one of both. -/

namespace Pool

open Relation

variable {Call : Type → Type 1} {ε Role Oracle Event World Deed Notes : Type} {α : Type}

/-- What notes the steps of a machine, and does deeds of its own that change its notes only. -/
structure Companion (machine : Machine Call ε Role Oracle Event World) (Deed Notes : Type) where
  call : {β : Type} → Thread Role → Call β → Oracle → World → Notes → Notes
  launch : Thread Role → Oracle → World → Notes → Notes
  happen : Event → World → Notes → Notes
  restart : Oracle → World → Notes → Notes
  deed : Deed → World → Notes → Option Notes

variable {machine : Machine Call ε Role Oracle Event World}

namespace Companion

variable (companion : Companion machine Deed Notes)

/-- What is outside the pool: an event of the machine, or a deed of the companion. -/
def happenBoth (event : Event ⊕ Deed) (world : World × Notes) : Option (World × Notes) :=
  match event with
  | .inl event => (machine.happen event world.1).map fun later =>
      (later, companion.happen event world.1 world.2)
  | .inr deed => (companion.deed deed world.1 world.2).map fun notes => (world.1, notes)

/-- The machine and its companion. Each note is taken from the world before the step. -/
def beside : Machine Call ε Role Oracle (Event ⊕ Deed) (World × Notes) where
  perform thread request oracle world :=
    ((machine.perform thread request oracle world.1).1,
      (machine.perform thread request oracle world.1).2,
      companion.call thread request oracle world.1 world.2)
  enabled request world := machine.enabled request world.1
  task := machine.task
  launch thread oracle world := (machine.launch thread oracle world.1).map fun later =>
    (later, companion.launch thread oracle world.1 world.2)
  happen := companion.happenBoth
  restart oracle world := (machine.restart oracle world.1, companion.restart oracle world.1 world.2)

/-- What happens beside the pool, taken apart. -/
theorem happen_cases {event : Event ⊕ Deed} {world later : World × Notes}
    (h : companion.beside.happen event world = some later) :
    (∃ happening, event = .inl happening ∧ machine.happen happening world.1 = some later.1 ∧
      later.2 = companion.happen happening world.1 world.2) ∨
    ∃ deed, event = .inr deed ∧ later.1 = world.1 ∧
      companion.deed deed world.1 world.2 = some later.2 := by
  cases event with
  | inl happening =>
    obtain ⟨found, hfound, rfl⟩ := Option.map_eq_some_iff.mp h
    exact Or.inl ⟨happening, rfl, hfound, rfl⟩
  | inr deed =>
    obtain ⟨notes, hnotes, rfl⟩ := Option.map_eq_some_iff.mp h
    exact Or.inr ⟨deed, rfl, rfl, hnotes⟩

/-- A launch, taken apart. -/
theorem launch_cases {thread : Thread Role} {oracle : Oracle} {world later : World × Notes}
    (h : companion.beside.launch thread oracle world = some later) :
    machine.launch thread oracle world.1 = some later.1 ∧
      later.2 = companion.launch thread oracle world.1 world.2 := by
  obtain ⟨found, hfound, rfl⟩ := Option.map_eq_some_iff.mp h
  exact ⟨hfound, rfl⟩

end Companion

/-! ## The machine alone -/

/-- A choice of the machine, as one of both. -/
def Choice.beside : Choice Role Oracle Event → Choice Role Oracle (Event ⊕ Deed)
  | .run number oracle => .run number oracle
  | .launch role oracle => .launch role oracle
  | .happen event => .happen (.inl event)
  | .restart oracle => .restart oracle

/-- The configuration without the notes. -/
def Conf.alone (conf : Conf Call ε Role (World × Notes)) : Conf Call ε Role World :=
  ⟨conf.world.1, conf.threads⟩

/-- A condition on both asks no less of the machine's steps. -/
structure Condition.Within
    (both : Condition Call Role Oracle (Event ⊕ Deed) (World × Notes))
    (condition : Condition Call Role Oracle Event World) : Prop where
  call : ∀ {β : Type} {thread : Thread Role} {request : Call β} {oracle world},
    both.call thread request oracle world = true → condition.call thread request oracle world.1
  launch : ∀ {thread oracle world}, both.launch thread oracle world = true →
    condition.launch thread oracle world.1
  happen : ∀ {event : Event} {world}, both.happen (.inl event) world = true →
    condition.happen event world.1
  restart : ∀ {oracle world}, both.restart oracle world = true → condition.restart oracle world.1

/-- Every condition asks something. -/
theorem Condition.within_always (both : Condition Call Role Oracle (Event ⊕ Deed) (World × Notes)) :
    both.Within Condition.always :=
  ⟨fun _ => rfl, fun _ => rfl, fun _ => rfl, fun _ => rfl⟩

namespace Companion

variable {companion : Companion machine Deed Notes}
  {both : Condition Call Role Oracle (Event ⊕ Deed) (World × Notes)}
  {condition : Condition Call Role Oracle Event World}

/-- A step of both is a step of the machine, or a deed that leaves it alone. -/
theorem stepsTo_alone (hwithin : both.Within condition)
    {conf conf' : Conf Call ε Role (World × Notes)} (h : companion.beside.StepsTo both conf conf') :
    conf'.alone = conf.alone ∨ machine.StepsTo condition conf.alone conf'.alone := by
  obtain ⟨choice, hallows, hstep⟩ := h
  cases choice with
  | run number oracle =>
    simp only [Machine.step] at hstep
    split at hstep
    · next role β request next hthread =>
      split at hstep
      · next henabled =>
        -- The companion notes what the call did; the machine alone takes the same step.
        cases hstep
        rw [Condition.allows, hthread] at hallows
        refine Or.inr ⟨.run number oracle, ?_, ?_⟩
        · rw [Condition.allows, Conf.alone, hthread]
          exact hwithin.call hallows
        · have henabled : machine.enabled request conf.world.1 = true := henabled
          simp only [Machine.step, Conf.alone, hthread, henabled, if_true]
          rfl
      · cases hstep
    · cases hstep
  | launch role oracle =>
    obtain ⟨world, hlaunch, rfl⟩ := Option.map_eq_some_iff.mp hstep
    refine Or.inr ⟨.launch role oracle, hwithin.launch hallows, ?_⟩
    have halone := (companion.launch_cases hlaunch).1
    simp only [Machine.step, Conf.alone, halone, Option.map_some]
    rfl
  | happen event =>
    obtain ⟨world, hhappen, rfl⟩ := Option.map_eq_some_iff.mp hstep
    rcases companion.happen_cases hhappen with ⟨happening, rfl, halone, -⟩ | ⟨deed, -, hsame, -⟩
    · refine Or.inr ⟨.happen happening, hwithin.happen hallows, ?_⟩
      simp only [Machine.step, Conf.alone, halone, Option.map_some]
    -- A deed of the companion is no step of the machine.
    · left
      simp only [Conf.alone, hsame]
  | restart oracle =>
    cases hstep
    exact Or.inr ⟨.restart oracle, hwithin.restart hallows, rfl⟩

/-- A run of both is a run of the machine. -/
theorem runsTo_alone (hwithin : both.Within condition)
    {conf conf' : Conf Call ε Role (World × Notes)} (h : companion.beside.RunsTo both conf conf') :
    machine.RunsTo condition conf.alone conf'.alone := by
  induction h with
  | refl => exact .refl
  | tail _ hstep ih =>
    rcases stepsTo_alone hwithin hstep with hsame | hstep
    · rw [hsame]
      exact ih
    · exact ih.tail hstep

/-- What a thread knows of the machine it knows of both. -/
theorem safe_beside {spec : Spec machine condition} {spec' : Spec companion.beside both}
    (hwithin : both.Within condition) {thread : Thread Role}
    (hinv : ∀ {world}, spec'.inv world → spec.inv world.1)
    (hrely : ∀ {world later}, spec'.rely thread world later → spec.rely thread world.1 later.1)
    (hpre : ∀ {β : Type} {request : Call β} {world}, spec.pre thread request world.1 →
      spec'.pre thread request world)
    {program : Program Call ε α} {post : Except ε α → World → Prop} {world : World × Notes}
    (h : spec.Safe thread post program world.1) :
    spec'.Safe thread (fun result world => post result world.1) program world := by
  induction program generalizing world with
  | done value => exact fun later hlater hholds => h later.1 (hrely hlater) (hinv hholds)
  | raise failure => exact fun later hlater hholds => h later.1 (hrely hlater) (hinv hholds)
  | call request next ih =>
    intro later hlater hholds
    obtain ⟨hneeds, hnext⟩ := h later.1 (hrely hlater) (hinv hholds)
    exact ⟨hpre hneeds, fun oracle hcond => ih _ (hnext oracle (hwithin.call hcond))⟩

/-- The calls a program comes to make beside a companion are those it makes alone. -/
theorem makes_beside {thread : Thread Role} {allowed : {β : Type} → Call β → Prop}
    {post : α → Prop} {program : Program Call ε α}
    (h : machine.Makes thread allowed post program) :
    companion.beside.Makes thread allowed post program := by
  induction program with
  | done value => exact h
  | raise failure => exact h
  | call request next ih =>
    obtain ⟨hrequest, hnext⟩ := h
    refine ⟨hrequest, fun result hgives => ih result (hnext result ?_)⟩
    obtain ⟨oracle, world, hresult⟩ := hgives
    exact ⟨oracle, world.1, hresult⟩

end Companion

/-! ## Contracts -/

namespace Contract

variable {condition : Condition Call Role Oracle Event World}

/-- A contract of the machine, for both. -/
def beside (contract : Contract machine condition) (companion : Companion machine Deed Notes)
    {both : Condition Call Role Oracle (Event ⊕ Deed) (World × Notes)}
    (hwithin : both.Within condition) : Contract companion.beside both where
  inv world := contract.inv world.1
  pre thread request world := contract.pre thread request world.1
  rely thread world later := contract.rely thread world.1 later.1
  rely_refl thread world := contract.rely_refl thread world.1
  rely_trans h h' := contract.rely_trans h h'
  call_inv hinv hpre hcond := contract.call_inv hinv hpre (hwithin.call hcond)
  call_rely hinv hpre hcond hother := contract.call_rely hinv hpre (hwithin.call hcond) hother
  launch_inv hinv hcond hlaunch :=
    contract.launch_inv hinv (hwithin.launch hcond) (companion.launch_cases hlaunch).1
  launch_rely hinv hcond hlaunch :=
    contract.launch_rely hinv (hwithin.launch hcond) (companion.launch_cases hlaunch).1
  happen_inv hinv hcond hhappen := by
    rcases companion.happen_cases hhappen with ⟨happening, rfl, halone, -⟩ | ⟨deed, -, hsame, -⟩
    · exact contract.happen_inv hinv (hwithin.happen hcond) halone
    · rw [hsame]
      exact hinv
  happen_rely hinv hcond hhappen := by
    rcases companion.happen_cases hhappen with ⟨happening, rfl, halone, -⟩ | ⟨deed, -, hsame, -⟩
    · exact contract.happen_rely hinv (hwithin.happen hcond) halone
    · rw [hsame]
      exact contract.rely_refl _ _
  restart_inv hinv hcond := contract.restart_inv hinv (hwithin.restart hcond)

variable {contract : Contract machine condition} {companion : Companion machine Deed Notes}
  {both : Condition Call Role Oracle (Event ⊕ Deed) (World × Notes)}

/-- Tasks that start safely alone start safely beside a companion. -/
theorem Launches.beside (h : contract.Launches) (hwithin : both.Within condition) :
    (contract.beside companion hwithin).Launches := by
  intro thread oracle world world' hinv hcond hlaunch
  have halone := h hinv (hwithin.launch hcond) (companion.launch_cases hlaunch).1
  exact Companion.safe_beside hwithin
    (fun hboth => hboth) (fun hboth => hboth) (fun hneeds => hneeds) halone

end Contract

end Pool
