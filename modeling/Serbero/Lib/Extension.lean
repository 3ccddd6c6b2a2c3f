import Serbero.Lib.Pool

/-! # More about a pool of programs

Which calls a program comes to make whatever the machine answers, and contracts that know more than
another one: the tasks then have to be looked at for what is new only. -/

namespace Pool

variable {Call : Type → Type 1} {ε Role Oracle Event World : Type} {α β γ : Type}

/-! ## The calls of a program -/

namespace Machine

variable (machine : Machine Call ε Role Oracle Event World)

/-- The machine may give the thread's call this result. -/
def Gives (thread : Thread Role) (request : Call β) (result : Except ε β) : Prop :=
  ∃ oracle world, (machine.perform thread request oracle world).1 = result

/-- Whatever the machine answers, the program makes only calls that are allowed, and what it returns
meets `post`. -/
def Makes (thread : Thread Role) (allowed : {β : Type} → Call β → Prop) (post : α → Prop) :
    Program Call ε α → Prop
  | .done value => post value
  | .raise _ => True
  | .call request next =>
    allowed request ∧ ∀ result, machine.Gives thread request result →
      Makes thread allowed post (next result)

end Machine

namespace Machine.Makes

variable {machine : Machine Call ε Role Oracle Event World} {thread : Thread Role}
  {allowed allowed' : {β : Type} → Call β → Prop} {post : α → Prop}

/-- What is allowed and promised may be weakened. -/
theorem mono {program : Program Call ε α} {post' : α → Prop}
    (h : machine.Makes thread allowed post program)
    (hallowed : ∀ {β : Type} {request : Call β}, allowed request → allowed' request)
    (hpost : ∀ value, post value → post' value) : machine.Makes thread allowed' post' program := by
  induction program with
  | done value => exact hpost value h
  | raise failure => exact trivial
  | call request next ih =>
    obtain ⟨hrequest, hnext⟩ := h
    exact ⟨hallowed hrequest, fun result hgives => ih result (hnext result hgives)⟩

/-- One program after another. -/
theorem bind {program : Program Call ε α} {next : α → Program Call ε γ} {post' : γ → Prop}
    (h : machine.Makes thread allowed post program)
    (hnext : ∀ value, post value → machine.Makes thread allowed post' (next value)) :
    machine.Makes thread allowed post' (program.bind next) := by
  induction program with
  | done value => exact hnext value h
  | raise failure => exact trivial
  | call request rest ih =>
    obtain ⟨hrequest, hrest⟩ := h
    exact ⟨hrequest, fun result hgives => ih result (hrest result hgives)⟩

/-- An attempted program makes the same calls. -/
theorem attempt {program : Program Call ε α} {post' : Except ε α → Prop}
    (h : machine.Makes thread allowed post program)
    (hpost : ∀ value, post value → post' (.ok value)) (herror : ∀ failure, post' (.error failure)) :
    machine.Makes thread allowed post' program.attempt := by
  induction program with
  | done value => exact hpost value h
  | raise failure => exact herror failure
  | call request next ih =>
    obtain ⟨hrequest, hnext⟩ := h
    exact ⟨hrequest, fun result hgives => ih result (hnext result hgives)⟩

/-- One call. -/
theorem perform {request : Call α} (hrequest : allowed request)
    (hpost : ∀ value, machine.Gives thread request (.ok value) → post value) :
    machine.Makes thread allowed post (Program.perform request) := by
  refine ⟨hrequest, fun result hgives => ?_⟩
  cases result with
  | ok value => exact hpost value hgives
  | error failure => exact trivial

/-- A loop without a value, whose rounds are all alike. -/
theorem forEach {body : α → Program Call ε Unit} {xs : List α}
    (hbody : ∀ x ∈ xs, machine.Makes thread allowed (fun _ => True) (body x)) :
    machine.Makes thread allowed (fun _ => True) (Program.forEach body xs) := by
  induction xs with
  | nil => exact trivial
  | cons x rest ih =>
    exact (hbody x List.mem_cons_self).bind fun _ _ =>
      ih fun y hy => hbody y (List.mem_cons_of_mem x hy)

/-- A loop that carries a value, whose rounds are all alike. -/
theorem foldEach {body : γ → α → Program Call ε γ} {xs : List α}
    (hbody : ∀ carried, ∀ x ∈ xs, machine.Makes thread allowed (fun _ => True) (body carried x))
    (carried : γ) :
    machine.Makes thread allowed (fun _ => True) (Program.foldEach body carried xs) := by
  induction xs generalizing carried with
  | nil => exact trivial
  | cons x rest ih =>
    exact (hbody carried x List.mem_cons_self).bind fun next _ =>
      ih (fun c y hy => hbody c y (List.mem_cons_of_mem x hy)) next

/-- Every program makes some calls. -/
theorem any (program : Program Call ε α) :
    machine.Makes thread (fun _ => True) (fun _ => True) program := by
  induction program with
  | done value => exact True.intro
  | raise failure => exact True.intro
  | call request next ih => exact ⟨True.intro, fun result _ => ih result⟩

end Machine.Makes

/-! ## Two specifications at once -/

namespace Spec

variable {machine : Machine Call ε Role Oracle Event World}
  {condition : Condition Call Role Oracle Event World} {spec spec' both : Spec machine condition}
  {thread : Thread Role}

/-- A fact that lasts over the calls a program makes is known before each of them. -/
theorem triple_of_makes {allowed : {β : Type} → Call β → Prop} {fact : World → Prop}
    {program : Program Call ε α} {post : α → Prop} (hlasting : spec.Lasting thread allowed fact)
    (hpre : ∀ {β : Type} {request : Call β} {world}, allowed request → spec.inv world →
      fact world → spec.pre thread request world)
    (h : machine.Makes thread allowed post program) :
    spec.Triple thread fact program fun result world =>
      fact world ∧ ∀ value, result = .ok value → post value := by
  induction program with
  | done value =>
    intro _ _ hfact later hrely _
    refine ⟨hlasting.rely hfact hrely, fun found heq => ?_⟩
    cases heq
    exact h
  | raise failure =>
    intro _ _ hfact later hrely _
    exact ⟨hlasting.rely hfact hrely, fun _ heq => by cases heq⟩
  | call request next ih =>
    intro _ _ hfact later hrely hinv
    have hlater := hlasting.rely hfact hrely
    have hneeds := hpre h.1 hinv hlater
    refine ⟨hneeds, fun oracle hcond => .of_later fun world hrely' hinv' => ?_⟩
    refine ih _ (h.2 _ ⟨oracle, later, rfl⟩) world hinv' (hlasting.rely ?_ hrely')
    exact hlasting.call h.1 hinv hneeds hcond hlater

/-- What follows a program may rest on its results. -/
theorem keeps_bind_of_makes {allowed : {β : Type} → Call β → Prop} {fact : World → Prop}
    {program : Program Call ε α} {next : α → Program Call ε γ} {post : α → Prop}
    (hlasting : spec.Lasting thread allowed fact)
    (hpre : ∀ {β : Type} {request : Call β} {world}, allowed request → spec.inv world →
      fact world → spec.pre thread request world)
    (h : machine.Makes thread allowed post program)
    (hnext : ∀ value, post value → spec.Keeps thread fact (next value)) :
    spec.Keeps thread fact (program.bind next) :=
  Triple.bind _ (triple_of_makes hlasting hpre h)
    (fun value world hinv hmid => hnext value (hmid.2 value rfl) world hinv hmid.1)
    fun _ _ _ hmid => hmid.1

/-- A fact that lasts over the calls a program makes is known beside all else it keeps. -/
theorem Safe.frame {allowed : {β : Type} → Call β → Prop} {fact : World → Prop}
    {program : Program Call ε α} {world : World} {post : α → Prop}
    {after : Except ε α → World → Prop} (hlasting : spec.Lasting thread allowed fact)
    (hmakes : machine.Makes thread allowed post program)
    (h : spec.Safe thread after program world) (hfact : fact world) :
    spec.Safe thread (fun result world => after result world ∧ fact world) program world := by
  induction program generalizing world with
  | done value => exact fun later hrely hinv => ⟨h later hrely hinv, hlasting.rely hfact hrely⟩
  | raise failure => exact fun later hrely hinv => ⟨h later hrely hinv, hlasting.rely hfact hrely⟩
  | call request next ih =>
    intro later hrely hinv
    obtain ⟨hpre, hnext⟩ := h later hrely hinv
    have hlater := hlasting.rely hfact hrely
    exact ⟨hpre, fun oracle hcond => ih _ (hmakes.2 _ ⟨oracle, later, rfl⟩) (hnext oracle hcond)
      (hlasting.call hmakes.1 hinv hpre hcond hlater)⟩

/-- What lasts is known after a program as it was before. -/
theorem Triple.frame {allowed : {β : Type} → Call β → Prop} {fact before : World → Prop}
    {program : Program Call ε α} {post : α → Prop} {after : Except ε α → World → Prop}
    (hlasting : spec.Lasting thread allowed fact)
    (hmakes : machine.Makes thread allowed post program)
    (h : spec.Triple thread before program after) :
    spec.Triple thread (fun world => before world ∧ fact world) program
      fun result world => after result world ∧ fact world :=
  fun world hinv hholds => (h world hinv hholds.1).frame hlasting hmakes hholds.2

/-- What a program knows under one specification and under another, it knows under a third one that
expects no more than they do. -/
theorem Safe.and (hinv : ∀ {world}, both.inv world → spec.inv world ∧ spec'.inv world)
    (hrely : ∀ {world world'}, both.rely thread world world' →
      spec.rely thread world world' ∧ spec'.rely thread world world')
    (hpre : ∀ {β : Type} {request : Call β} {world}, spec.pre thread request world →
      spec'.pre thread request world → both.pre thread request world)
    {program : Program Call ε α} {world : World} {post post' : Except ε α → World → Prop}
    (h : spec.Safe thread post program world) (h' : spec'.Safe thread post' program world) :
    both.Safe thread (fun result world => post result world ∧ post' result world) program
      world := by
  induction program generalizing world with
  | done value =>
    intro later hlater hholds
    exact ⟨h later (hrely hlater).1 (hinv hholds).1, h' later (hrely hlater).2 (hinv hholds).2⟩
  | raise failure =>
    intro later hlater hholds
    exact ⟨h later (hrely hlater).1 (hinv hholds).1, h' later (hrely hlater).2 (hinv hholds).2⟩
  | call request next ih =>
    intro later hlater hholds
    obtain ⟨hneeds, hnext⟩ := h later (hrely hlater).1 (hinv hholds).1
    obtain ⟨hneeds', hnext'⟩ := h' later (hrely hlater).2 (hinv hholds).2
    exact ⟨hpre hneeds hneeds', fun oracle hcond => ih _ (hnext oracle hcond) (hnext' oracle hcond)⟩

end Spec

/-! ## Extensions of a contract -/

variable {machine : Machine Call ε Role Oracle Event World}
  {condition : Condition Call Role Oracle Event World}

/-- What holds besides a contract: of the world, of a thread before its calls, and of the changes it
has to expect. -/
structure Extension (contract : Contract machine condition) where
  inv : World → Prop
  pre : {β : Type} → Thread Role → Call β → World → Prop
  rely : Thread Role → World → World → Prop
  rely_refl : ∀ thread world, rely thread world world
  rely_trans : ∀ {thread a b c}, contract.rely thread a b → contract.rely thread b c →
    rely thread a b → rely thread b c → rely thread a c
  call_inv : ∀ {β : Type} {thread} {request : Call β} {oracle world}, contract.inv world →
    inv world → contract.pre thread request world → pre thread request world →
      condition.call thread request oracle world →
        inv (machine.perform thread request oracle world).2
  call_rely : ∀ {β : Type} {thread other} {request : Call β} {oracle world},
    contract.inv world → inv world → contract.pre thread request world →
      pre thread request world → condition.call thread request oracle world →
        other.number ≠ thread.number →
          rely other world (machine.perform thread request oracle world).2
  launch_inv : ∀ {thread oracle world world'}, contract.inv world → inv world →
    condition.launch thread oracle world → machine.launch thread oracle world = some world' →
      inv world'
  launch_rely : ∀ {thread other oracle world world'}, contract.inv world → inv world →
    condition.launch thread oracle world → machine.launch thread oracle world = some world' →
      rely other world world'
  happen_inv : ∀ {event world world'}, contract.inv world → inv world →
    condition.happen event world → machine.happen event world = some world' → inv world'
  happen_rely : ∀ {event other world world'}, contract.inv world → inv world →
    condition.happen event world → machine.happen event world = some world' →
      rely other world world'
  restart_inv : ∀ {oracle world}, contract.inv world → inv world →
    condition.restart oracle world → inv (machine.restart oracle world)

namespace Extension

variable {base : Contract machine condition} (extension : Extension base)

/-- What is new for the threads, with all they may rely on. -/
def news : Spec machine condition where
  inv world := base.inv world ∧ extension.inv world
  pre := extension.pre
  rely thread world world' := base.rely thread world world' ∧ extension.rely thread world world'
  rely_refl thread world := ⟨base.rely_refl thread world, extension.rely_refl thread world⟩
  rely_trans h h' := ⟨base.rely_trans h.1 h'.1, extension.rely_trans h.1 h'.1 h.2 h'.2⟩

/-- The contract with what the extension adds. -/
def contract : Contract machine condition where
  inv world := base.inv world ∧ extension.inv world
  pre thread call world := base.pre thread call world ∧ extension.pre thread call world
  rely thread world world' := base.rely thread world world' ∧ extension.rely thread world world'
  rely_refl thread world := ⟨base.rely_refl thread world, extension.rely_refl thread world⟩
  rely_trans h h' := ⟨base.rely_trans h.1 h'.1, extension.rely_trans h.1 h'.1 h.2 h'.2⟩
  call_inv hinv hpre hcond :=
    ⟨base.call_inv hinv.1 hpre.1 hcond, extension.call_inv hinv.1 hinv.2 hpre.1 hpre.2 hcond⟩
  call_rely hinv hpre hcond hother :=
    ⟨base.call_rely hinv.1 hpre.1 hcond hother,
      extension.call_rely hinv.1 hinv.2 hpre.1 hpre.2 hcond hother⟩
  launch_inv hinv hcond hlaunch :=
    ⟨base.launch_inv hinv.1 hcond hlaunch, extension.launch_inv hinv.1 hinv.2 hcond hlaunch⟩
  launch_rely hinv hcond hlaunch :=
    ⟨base.launch_rely hinv.1 hcond hlaunch, extension.launch_rely hinv.1 hinv.2 hcond hlaunch⟩
  happen_inv hinv hcond hhappen :=
    ⟨base.happen_inv hinv.1 hcond hhappen, extension.happen_inv hinv.1 hinv.2 hcond hhappen⟩
  happen_rely hinv hcond hhappen :=
    ⟨base.happen_rely hinv.1 hcond hhappen, extension.happen_rely hinv.1 hinv.2 hcond hhappen⟩
  restart_inv hinv hcond :=
    ⟨base.restart_inv hinv.1 hcond, extension.restart_inv hinv.1 hinv.2 hcond⟩

variable {extension}

/-- A task that starts safely under the contract has to be looked at for what is new. -/
theorem launches (hbase : base.Launches)
    (hnews : ∀ {thread : Thread Role} {oracle : Oracle} {world world' : World}, base.inv world →
      extension.inv world → condition.launch thread oracle world →
        machine.launch thread oracle world = some world' →
          extension.news.Safe thread (fun _ _ => True) (machine.task thread.role) world') :
    extension.contract.Launches := by
  intro thread oracle world world' hinv hcond hlaunch
  have hsafe : extension.contract.Safe thread (fun _ _ => True ∧ True) (machine.task thread.role)
      world' := by
    refine Spec.Safe.and ?_ ?_ ?_ (hbase hinv.1 hcond hlaunch) (hnews hinv.1 hinv.2 hcond hlaunch)
    · exact fun hboth => ⟨hboth.1, hboth⟩
    · exact fun hboth => ⟨hboth.1, hboth⟩
    · exact fun hneeds hneeds' => ⟨hneeds, hneeds'⟩
  exact hsafe.mono fun _ _ _ _ => trivial

/-- A move under the extended contract is one under the contract. -/
theorem moves {world world' : World} (h : extension.contract.Moves world world') :
    base.Moves world world' := by
  cases h with
  | call hinv hpre hcond henabled => exact .call hinv.1 hpre.1 hcond henabled
  | launch hinv hcond hlaunch => exact .launch hinv.1 hcond hlaunch
  | happen hinv hcond hhappen => exact .happen hinv.1 hcond hhappen
  | restart hinv hcond => exact .restart hinv.1 hcond

end Extension

/-! ## Enabled steps -/

/-- The condition, and that the call is enabled. -/
def Condition.whenEnabled (condition : Condition Call Role Oracle Event World)
    (machine : Machine Call ε Role Oracle Event World) : Condition Call Role Oracle Event World :=
  { condition with
    call := fun thread request oracle world =>
      condition.call thread request oracle world && machine.enabled request world }

/-- A step that is taken is enabled. -/
theorem Machine.StepsTo.whenEnabled {conf conf' : Conf Call ε Role World}
    (h : machine.StepsTo condition conf conf') :
    machine.StepsTo (condition.whenEnabled machine) conf conf' := by
  obtain ⟨choice, hallows, hstep⟩ := h
  refine ⟨choice, ?_, hstep⟩
  cases choice with
  | run number oracle =>
    simp only [Machine.step] at hstep
    split at hstep
    · next hthread =>
      split at hstep
      · next henabled =>
        rw [Condition.allows, hthread] at hallows ⊢
        simp only [Condition.whenEnabled, Bool.and_eq_true]
        exact ⟨hallows, henabled⟩
      · cases hstep
    · cases hstep
  | launch role oracle => exact hallows
  | happen event => exact hallows
  | restart oracle => exact hallows

/-- The steps of a run are enabled. -/
theorem Machine.RunsTo.whenEnabled {conf conf' : Conf Call ε Role World}
    (h : machine.RunsTo condition conf conf') :
    machine.RunsTo (condition.whenEnabled machine) conf conf' := by
  induction h with
  | refl => exact .refl
  | tail _ hstep ih => exact ih.tail hstep.whenEnabled

/-- What holds wherever a run comes may be asked of its steps. -/
theorem Machine.RunsTo.strengthen {condition' : Condition Call Role Oracle Event World}
    {start conf : Conf Call ε Role World} (h : machine.RunsTo condition start conf)
    (hallows : ∀ conf choice, machine.RunsTo condition start conf →
      condition.allows conf choice = true → condition'.allows conf choice = true) :
    machine.RunsTo condition' start conf := by
  induction h with
  | refl => exact .refl
  | tail hrun hstep ih =>
    obtain ⟨choice, hchoice, hlater⟩ := hstep
    exact ih.tail ⟨choice, hallows _ choice hrun hchoice, hlater⟩

end Pool
