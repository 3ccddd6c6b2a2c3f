import Mathlib.Logic.Relation
import Serbero.Lib.Program

/-! # A pool of programs over a shared world

Threads take turns: a step performs one call of one thread, launches a new one, lets something
happen outside the pool, or restarts the process, which ends every thread. The outcome a call cannot
decide by itself (a failure, a reply of the network) is given with the step.

Proofs are in rely-guarantee form. A contract names the invariant of the world, what a thread must
know before a call, and the changes a thread has to expect from everything else. A program is safe
when it knows enough before each of its calls; the pool of safe programs then keeps the invariant,
whatever the interleaving. -/

namespace Pool

open Relation

/-- A thread: where it stands in the pool, and what it was launched for. -/
structure Thread (Role : Type) where
  number : Nat
  role : Role
  deriving DecidableEq, Repr

/-- What the calls do to the world, and what may happen to it besides. -/
structure Machine (Call : Type → Type 1) (ε Role Oracle Event World : Type) where
  /-- A call's result and the world after it. -/
  perform : {β : Type} → Thread Role → Call β → Oracle → World → Except ε β × World
  /-- A call that waits is not enabled yet. -/
  enabled : {β : Type} → Call β → World → Bool
  /-- The program a thread runs. -/
  task : Role → Program Call ε Unit
  /-- The world once a thread is launched, if it may be. -/
  launch : Thread Role → Oracle → World → Option World
  /-- The world after something outside the pool, if it can happen. -/
  happen : Event → World → Option World
  /-- The world of a process that starts again. -/
  restart : Oracle → World → World

/-- The world and what each thread still has to do. A thread keeps its place once it is over. -/
structure Conf (Call : Type → Type 1) (ε Role World : Type) where
  world : World
  threads : List (Role × Program Call ε Unit)

/-- The thread stands at a call of this kind: it waits for the call's result. -/
def Conf.standsAt {Call : Type → Type 1} {ε Role World : Type} (conf : Conf Call ε Role World)
    (number : Nat) (kind : {β : Type} → Call β → Bool) : Bool :=
  match conf.threads[number]? with
  | some (_, .call request _) => kind request
  | _ => false

/-- Which step is taken. -/
inductive Choice (Role Oracle Event : Type)
  | run (number : Nat) (oracle : Oracle)
  | launch (role : Role) (oracle : Oracle)
  | happen (event : Event)
  | restart (oracle : Oracle)
  deriving Repr

/-- The steps of a run that are looked at. -/
structure Condition (Call : Type → Type 1) (Role Oracle Event World : Type) where
  call : {β : Type} → Thread Role → Call β → Oracle → World → Bool
  launch : Thread Role → Oracle → World → Bool
  happen : Event → World → Bool
  restart : Oracle → World → Bool

/-- No step is left out. -/
def Condition.always {Call : Type → Type 1} {Role Oracle Event World : Type} :
    Condition Call Role Oracle Event World :=
  ⟨fun _ _ _ _ => true, fun _ _ _ => true, fun _ _ => true, fun _ _ => true⟩

variable {Call : Type → Type 1} {ε Role Oracle Event World : Type} {α β : Type}

/-- Whether the step chosen meets the condition. -/
def Condition.allows (condition : Condition Call Role Oracle Event World)
    (conf : Conf Call ε Role World) : Choice Role Oracle Event → Bool
  | .run number oracle =>
    match conf.threads[number]? with
    | some (role, .call request _) => condition.call ⟨number, role⟩ request oracle conf.world
    | _ => true
  | .launch role oracle => condition.launch ⟨conf.threads.length, role⟩ oracle conf.world
  | .happen event => condition.happen event conf.world
  | .restart oracle => condition.restart oracle conf.world

namespace Machine

variable (machine : Machine Call ε Role Oracle Event World)

/-- One step of the pool. -/
def step (conf : Conf Call ε Role World) :
    Choice Role Oracle Event → Option (Conf Call ε Role World)
  | .run number oracle =>
    match conf.threads[number]? with
    | some (role, .call request next) =>
      if machine.enabled request conf.world then
        let (result, world) := machine.perform ⟨number, role⟩ request oracle conf.world
        some ⟨world, conf.threads.set number (role, next result)⟩
      else none
    | _ => none
  | .launch role oracle =>
    (machine.launch ⟨conf.threads.length, role⟩ oracle conf.world).map fun world =>
      ⟨world, conf.threads ++ [(role, machine.task role)]⟩
  | .happen event =>
    (machine.happen event conf.world).map fun world => ⟨world, conf.threads⟩
  | .restart oracle =>
    some ⟨machine.restart oracle conf.world,
      conf.threads.map fun thread => (thread.1, .done ())⟩

/-- The configuration after a list of choices that all meet the condition. -/
def runAll (condition : Condition Call Role Oracle Event World) (conf : Conf Call ε Role World) :
    List (Choice Role Oracle Event) → Option (Conf Call ε Role World)
  | [] => some conf
  | choice :: rest =>
    if condition.allows conf choice then
      (machine.step conf choice).bind fun next => runAll condition next rest
    else none

/-- One step that meets the condition. -/
def StepsTo (condition : Condition Call Role Oracle Event World)
    (conf conf' : Conf Call ε Role World) : Prop :=
  ∃ choice, condition.allows conf choice = true ∧ machine.step conf choice = some conf'

/-- A run whose steps all meet the condition. -/
def RunsTo (condition : Condition Call Role Oracle Event World) :
    Conf Call ε Role World → Conf Call ε Role World → Prop :=
  ReflTransGen (machine.StepsTo condition)

/-- What a list of choices leads to is reached by a run. -/
theorem runsTo_of_runAll {condition : Condition Call Role Oracle Event World}
    {conf conf' : Conf Call ε Role World} {choices : List (Choice Role Oracle Event)}
    (h : machine.runAll condition conf choices = some conf') :
    machine.RunsTo condition conf conf' := by
  induction choices generalizing conf with
  | nil =>
    cases h
    exact .refl
  | cons choice rest ih =>
    rw [runAll] at h
    split at h
    · next hallows =>
      obtain ⟨next, hstep, hrest⟩ := Option.bind_eq_some_iff.mp h
      exact .head ⟨choice, hallows, hstep⟩ (ih hrest)
    · cases h

/-- The configuration that a list of choices leads to, if they can all be taken. -/
def after (condition : Condition Call Role Oracle Event World) (conf : Conf Call ε Role World)
    (choices : List (Choice Role Oracle Event)) : Conf Call ε Role World :=
  (machine.runAll condition conf choices).getD conf

/-- Choices that the machine can follow make a run. -/
theorem runsTo_after {condition : Condition Call Role Oracle Event World}
    {conf : Conf Call ε Role World} {choices : List (Choice Role Oracle Event)}
    (h : (machine.runAll condition conf choices).isSome = true) :
    machine.RunsTo condition conf (machine.after condition conf choices) := by
  obtain ⟨later, hlater⟩ := Option.isSome_iff_exists.mp h
  rw [after, hlater]
  exact machine.runsTo_of_runAll hlater

end Machine

/-- What the threads of a machine assume, of the world and of each other. -/
structure Spec (machine : Machine Call ε Role Oracle Event World)
    (condition : Condition Call Role Oracle Event World) where
  /-- What holds of the world between any two steps. -/
  inv : World → Prop
  /-- What a thread must know before a call. -/
  pre : {β : Type} → Thread Role → Call β → World → Prop
  /-- The changes a thread has to expect from everything but its own calls. -/
  rely : Thread Role → World → World → Prop
  rely_refl : ∀ thread world, rely thread world world
  rely_trans : ∀ {thread a b c}, rely thread a b → rely thread b c → rely thread a c

namespace Spec

variable {machine : Machine Call ε Role Oracle Event World}
  {condition : Condition Call Role Oracle Event World} (spec : Spec machine condition)

/-- From this world on, the thread knows enough before every call of the program, whatever others
do in between, and the result meets `post` whenever it is looked at. -/
def Safe (thread : Thread Role) (post : Except ε α → World → Prop) :
    Program Call ε α → World → Prop
  | .done value, world =>
    ∀ world', spec.rely thread world world' → spec.inv world' → post (.ok value) world'
  | .raise failure, world =>
    ∀ world', spec.rely thread world world' → spec.inv world' → post (.error failure) world'
  | .call request next, world =>
    ∀ world', spec.rely thread world world' → spec.inv world' →
      spec.pre thread request world' ∧
        ∀ oracle, condition.call thread request oracle world' →
          Safe thread post (next (machine.perform thread request oracle world').1)
            (machine.perform thread request oracle world').2

variable {spec} {thread : Thread Role} {post : Except ε α → World → Prop}

/-- A safe program stays safe while others work. -/
theorem Safe.rely {program : Program Call ε α} {world world' : World}
    (h : spec.Safe thread post program world) (hrely : spec.rely thread world world') :
    spec.Safe thread post program world' := by
  cases program with
  | done value => exact fun later hlater => h later (spec.rely_trans hrely hlater)
  | raise failure => exact fun later hlater => h later (spec.rely_trans hrely hlater)
  | call request next => exact fun later hlater => h later (spec.rely_trans hrely hlater)

/-- What is safe in every world that may come is safe now. -/
theorem Safe.of_later {program : Program Call ε α} {world : World}
    (h : ∀ later, spec.rely thread world later → spec.inv later →
      spec.Safe thread post program later) :
    spec.Safe thread post program world := by
  cases program with
  | done value => exact fun later hrely hinv => h later hrely hinv later (spec.rely_refl _ _) hinv
  | raise failure =>
    exact fun later hrely hinv => h later hrely hinv later (spec.rely_refl _ _) hinv
  | call request next =>
    exact fun later hrely hinv => h later hrely hinv later (spec.rely_refl _ _) hinv

/-- The rule of consequence. -/
theorem Safe.mono {program : Program Call ε α} {world : World}
    {post' : Except ε α → World → Prop} (h : spec.Safe thread post program world)
    (hpost : ∀ result world, spec.inv world → post result world → post' result world) :
    spec.Safe thread post' program world := by
  induction program generalizing world with
  | done value => exact fun later hrely hinv => hpost _ _ hinv (h later hrely hinv)
  | raise failure => exact fun later hrely hinv => hpost _ _ hinv (h later hrely hinv)
  | call request next ih =>
    intro later hrely hinv
    obtain ⟨hpre, hnext⟩ := h later hrely hinv
    exact ⟨hpre, fun oracle hcond => ih _ (hnext oracle hcond)⟩

/-- The rule of sequence: the second program starts from what the first one leaves, a failure of
the first one is the failure of both. -/
theorem Safe.bind {program : Program Call ε α} {next : α → Program Call ε β} {world : World}
    {post' : Except ε β → World → Prop} (h : spec.Safe thread post program world)
    (hok : ∀ value world, spec.inv world → post (.ok value) world →
      spec.Safe thread post' (next value) world)
    (herror : ∀ failure world, spec.inv world → post (.error failure) world →
      post' (.error failure) world) :
    spec.Safe thread post' (program.bind next) world := by
  induction program generalizing world with
  | done value =>
    exact .of_later fun later hrely hinv => hok value later hinv (h later hrely hinv)
  | raise failure => exact fun later hrely hinv => herror _ _ hinv (h later hrely hinv)
  | call request rest ih =>
    intro later hrely hinv
    obtain ⟨hpre, hnext⟩ := h later hrely hinv
    exact ⟨hpre, fun oracle hcond => ih _ (hnext oracle hcond)⟩

/-- The rule of an attempted program: its failure is a result. -/
theorem Safe.attempt {program : Program Call ε α} {world : World}
    {post' : Except ε (Except ε α) → World → Prop} (h : spec.Safe thread post program world)
    (hpost : ∀ result world, spec.inv world → post result world → post' (.ok result) world) :
    spec.Safe thread post' program.attempt world := by
  induction program generalizing world with
  | done value => exact fun later hrely hinv => hpost _ _ hinv (h later hrely hinv)
  | raise failure => exact fun later hrely hinv => hpost _ _ hinv (h later hrely hinv)
  | call request rest ih =>
    intro later hrely hinv
    obtain ⟨hpre, hnext⟩ := h later hrely hinv
    exact ⟨hpre, fun oracle hcond => ih _ (hnext oracle hcond)⟩

/-- The rule of one call. -/
theorem Safe.perform {request : Call α} {world : World}
    (h : ∀ world', spec.rely thread world world' → spec.inv world' →
      spec.pre thread request world' ∧ ∀ oracle, condition.call thread request oracle world' →
        ∀ later, spec.rely thread (machine.perform thread request oracle world').2 later →
          spec.inv later → post (machine.perform thread request oracle world').1 later) :
    spec.Safe thread post (Program.perform request) world := by
  intro world' hrely hinv
  obtain ⟨hpre, hnext⟩ := h world' hrely hinv
  refine ⟨hpre, fun oracle hcond => ?_⟩
  have hlater := hnext oracle hcond
  cases hresult : (machine.perform thread request oracle world').1 with
  | ok value =>
    rw [hresult] at hlater
    exact hlater
  | error failure =>
    rw [hresult] at hlater
    exact hlater

/-! ## Triples -/

/-- Started from a world that meets `before`, the program is safe and its result meets `after`. -/
def Triple (spec : Spec machine condition) (thread : Thread Role) (before : World → Prop)
    (program : Program Call ε α) (after : Except ε α → World → Prop) : Prop :=
  ∀ world, spec.inv world → before world → spec.Safe thread after program world

section

variable {before : World → Prop} {after : Except ε α → World → Prop}

/-- A weaker fact after it, from a stronger one before. -/
theorem Triple.consequence {program : Program Call ε α} {before' : World → Prop}
    {after' : Except ε α → World → Prop} (h : spec.Triple thread before program after)
    (hbefore : ∀ world, spec.inv world → before' world → before world)
    (hafter : ∀ result world, spec.inv world → after result world → after' result world) :
    spec.Triple thread before' program after' :=
  fun world hinv hholds => (h world hinv (hbefore world hinv hholds)).mono hafter

/-- One program and then the next, from what the first leaves; a failure skips the next. -/
theorem Triple.bind {program : Program Call ε α} {next : α → Program Call ε β}
    (middle : Except ε α → World → Prop) {after' : Except ε β → World → Prop}
    (h : spec.Triple thread before program middle)
    (hok : ∀ value, spec.Triple thread (middle (.ok value)) (next value) after')
    (herror : ∀ failure world, spec.inv world → middle (.error failure) world →
      after' (.error failure) world) :
    spec.Triple thread before (program.bind next) after' :=
  fun world hinv hholds => (h world hinv hholds).bind (fun value later hlater hmid =>
    hok value later hlater hmid) herror

/-- A failure that is caught is a value. -/
theorem Triple.attempt {program : Program Call ε α} {after' : Except ε (Except ε α) → World → Prop}
    (h : spec.Triple thread before program after)
    (hafter : ∀ result world, spec.inv world → after result world → after' (.ok result) world) :
    spec.Triple thread before program.attempt after' :=
  fun world hinv hholds => (h world hinv hholds).attempt hafter

/-- An attempted program, and what follows each of its results. -/
theorem Triple.attempt_bind {program : Program Call ε α} {next : Except ε α → Program Call ε β}
    {after' : Except ε β → World → Prop} (h : spec.Triple thread before program after)
    (hnext : ∀ result, spec.Triple thread (after result) (next result) after') :
    spec.Triple thread before (program.attempt.bind next) after' := by
  -- The attempt itself never fails.
  refine Triple.bind (fun attempted world => ∃ result, attempted = .ok result ∧ after result world)
    (h.attempt fun result _ _ hmid => ⟨result, rfl, hmid⟩) (fun result => ?_)
      fun _ _ _ ⟨_, heq, _⟩ => by cases heq
  refine (hnext result).consequence (fun world _ hmid => ?_) fun _ _ _ hpost => hpost
  obtain ⟨inner, heq, hholds⟩ := hmid
  cases heq
  exact hholds

/-- A result that is known, and stays known. -/
theorem Triple.done {value : α}
    (hstable : ∀ {world world'}, after (.ok value) world → spec.rely thread world world' →
      after (.ok value) world')
    (hbefore : ∀ world, spec.inv world → before world → after (.ok value) world) :
    spec.Triple thread before (.done value) after :=
  fun world hinv hholds _ hrely _ => hstable (hbefore world hinv hholds) hrely

/-- A program that fails leaves what holds while others act. -/
theorem Triple.raise {failure : ε}
    (hstable : ∀ {world world'}, after (.error failure) world → spec.rely thread world world' →
      after (.error failure) world')
    (hbefore : ∀ world, spec.inv world → before world → after (.error failure) world) :
    spec.Triple thread before (.raise failure) after :=
  fun world hinv hholds _ hrely _ => hstable (hbefore world hinv hholds) hrely

/-- A loop, for facts about the value it carries. -/
theorem Triple.foldEach {after : Except ε β → World → Prop} {body : β → α → Program Call ε β}
    {xs : List α}
    (hstable : ∀ {carried world world'}, after (.ok carried) world →
      spec.rely thread world world' → after (.ok carried) world')
    (hbody : ∀ carried, ∀ x ∈ xs, spec.Triple thread (after (.ok carried)) (body carried x) after)
    (carried : β) :
    spec.Triple thread (after (.ok carried)) (Program.foldEach body carried xs) after := by
  induction xs generalizing carried with
  | nil => exact .done hstable fun _ _ hholds => hholds
  | cons x rest ih =>
    exact Triple.bind after (hbody carried x List.mem_cons_self)
      (ih fun later y hy => hbody later y (List.mem_cons_of_mem x hy)) fun _ _ _ hholds => hholds

/-- The rule of one call, whose knowledge before it lasts until the call. -/
theorem Triple.perform {request : Call α}
    (hstable : ∀ {world world'}, before world → spec.rely thread world world' → before world')
    (hpre : ∀ world, spec.inv world → before world → spec.pre thread request world)
    (hafter : ∀ world oracle later, spec.inv world → before world →
      condition.call thread request oracle world →
        spec.rely thread (machine.perform thread request oracle world).2 later →
          spec.inv later → after (machine.perform thread request oracle world).1 later) :
    spec.Triple thread before (Program.perform request) after := by
  refine fun world _ hholds => Safe.perform fun world' hrely hinv => ?_
  have hlater := hstable hholds hrely
  exact ⟨hpre world' hinv hlater, fun oracle hcond later hnext hlaterInv =>
    hafter world' oracle later hinv hlater hcond hnext hlaterInv⟩

end

/-! ## Programs that keep what a thread knows -/

/-- What a thread once knew and still knows, whatever others do and whichever of these calls of its
own it makes. -/
structure Lasting (spec : Spec machine condition) (thread : Thread Role)
    (calls : {β : Type} → Call β → Prop) (fact : World → Prop) : Prop where
  rely : ∀ {world world'}, fact world → spec.rely thread world world' → fact world'
  call : ∀ {β : Type} {request : Call β} {oracle world}, calls request → spec.inv world →
    spec.pre thread request world → condition.call thread request oracle world → fact world →
      fact (machine.perform thread request oracle world).2

section

variable {calls : {β : Type} → Call β → Prop}

/-- Two facts that last. -/
theorem Lasting.and {fact fact' : World → Prop} (h : spec.Lasting thread calls fact)
    (h' : spec.Lasting thread calls fact') :
    spec.Lasting thread calls fun world => fact world ∧ fact' world :=
  ⟨fun hfact hrely => ⟨h.rely hfact.1 hrely, h'.rely hfact.2 hrely⟩,
    fun hcall hinv hpre hcond hfact =>
      ⟨h.call hcall hinv hpre hcond hfact.1, h'.call hcall hinv hpre hcond hfact.2⟩⟩

/-- What always holds lasts. -/
theorem Lasting.true : spec.Lasting thread calls fun _ => True :=
  ⟨fun _ _ => trivial, fun _ _ _ _ _ => trivial⟩

/-- What lasts over more calls lasts over fewer. -/
theorem Lasting.of_imp {calls' : {β : Type} → Call β → Prop} {fact : World → Prop}
    (h : spec.Lasting thread calls fact)
    (hcalls : ∀ {β : Type} {request : Call β}, calls' request → calls request) :
    spec.Lasting thread calls' fact :=
  ⟨h.rely, fun hcall => h.call (hcalls hcall)⟩

/-- Knowing the fact, the program is safe, and the fact is known after it. -/
def Keeps (spec : Spec machine condition) (thread : Thread Role) (fact : World → Prop)
    (program : Program Call ε α) : Prop :=
  spec.Triple thread fact program fun _ => fact

variable {fact : World → Prop}

/-- A program that returns keeps what lasts. -/
theorem Keeps.done (hlasting : spec.Lasting thread calls fact) (value : α) :
    spec.Keeps thread fact (.done value) :=
  fun _ _ hfact _ hrely _ => hlasting.rely hfact hrely

/-- So does one that fails. -/
theorem Keeps.raise (hlasting : spec.Lasting thread calls fact) (failure : ε) :
    spec.Keeps thread fact (.raise failure : Program Call ε α) :=
  fun _ _ hfact _ hrely _ => hlasting.rely hfact hrely

/-- So does one whose result is there already. -/
theorem Keeps.ofExcept (hlasting : spec.Lasting thread calls fact) (result : Except ε α) :
    spec.Keeps thread fact (Program.ofExcept result) := by
  cases result with
  | ok value => exact .done hlasting value
  | error failure => exact .raise hlasting failure

/-- A call keeps what lasts through it, once what it needs is known. -/
theorem Keeps.perform (hlasting : spec.Lasting thread calls fact) {request : Call α}
    (hcall : calls request)
    (hpre : ∀ world, spec.inv world → fact world → spec.pre thread request world) :
    spec.Keeps thread fact (Program.perform request) :=
  Triple.perform hlasting.rely hpre fun world _ _ hinv hfact hcond hrely _ =>
    hlasting.rely (hlasting.call hcall hinv (hpre world hinv hfact) hcond hfact) hrely

/-- A fact kept by one program and by the next. -/
theorem Keeps.bind {program : Program Call ε α} {next : α → Program Call ε β}
    (h : spec.Keeps thread fact program) (hnext : ∀ value, spec.Keeps thread fact (next value)) :
    spec.Keeps thread fact (program.bind next) :=
  Triple.bind _ h hnext fun _ _ _ hkept => hkept

/-- Whether a program fails makes no difference to what it keeps. -/
theorem Keeps.attempt {program : Program Call ε α} (h : spec.Keeps thread fact program) :
    spec.Keeps thread fact program.attempt :=
  Triple.attempt h fun _ _ _ hkept => hkept

/-- A loop keeps what its body keeps, by induction on the list. -/
theorem Keeps.forEach (hlasting : spec.Lasting thread calls fact) {body : β → Program Call ε Unit}
    {xs : List β} (hbody : ∀ x ∈ xs, spec.Keeps thread fact (body x)) :
    spec.Keeps thread fact (Program.forEach body xs) := by
  induction xs with
  | nil => exact .done hlasting ()
  | cons x rest ih =>
    exact (hbody x List.mem_cons_self).bind fun _ =>
      ih fun y hy => hbody y (List.mem_cons_of_mem x hy)

/-- The same where the loop carries a value. -/
theorem Keeps.foldEach (hlasting : spec.Lasting thread calls fact) {γ : Type}
    {body : γ → β → Program Call ε γ} {xs : List β}
    (hbody : ∀ carried, ∀ x ∈ xs, spec.Keeps thread fact (body carried x)) (carried : γ) :
    spec.Keeps thread fact (Program.foldEach body carried xs) := by
  induction xs generalizing carried with
  | nil => exact .done hlasting carried
  | cons x rest ih =>
    exact (hbody carried x List.mem_cons_self).bind fun next =>
      ih (fun c y hy => hbody c y (List.mem_cons_of_mem x hy)) next

/-- A program keeps the fact, and what it returns is known of the world. -/
def Learns (spec : Spec machine condition) (thread : Thread Role) (fact : World → Prop)
    (program : Program Call ε α) (known : α → World → Prop) : Prop :=
  spec.Triple thread fact program fun result world =>
    fact world ∧ ∀ value, result = .ok value → known value world

variable {known : α → World → Prop}

/-- A value whose use is known. -/
theorem Learns.done (hlasting : spec.Lasting thread calls fact) {value : α}
    (hrely : ∀ {world world'}, known value world → spec.rely thread world world' →
      known value world')
    (h : ∀ world, spec.inv world → fact world → known value world) :
    spec.Learns thread fact (.done value) known := by
  refine Triple.done (fun hpost hlater => ?_) fun world hinv hfact => ⟨hfact, fun found heq => ?_⟩
  · refine ⟨hlasting.rely hpost.1 hlater, fun found heq => ?_⟩
    cases heq
    exact hrely (hpost.2 value rfl) hlater
  · cases heq
    exact h world hinv hfact

/-- What was learned is known to what follows. -/
theorem Learns.bind {program : Program Call ε α} {next : α → Program Call ε β}
    (known : α → World → Prop) (h : spec.Learns thread fact program known)
    (hnext : ∀ value, spec.Keeps thread (fun world => fact world ∧ known value world) (next value)) :
    spec.Keeps thread fact (program.bind next) :=
  Triple.bind _ h (fun value => (hnext value).consequence
    (fun _ _ hmid => ⟨hmid.1, hmid.2 value rfl⟩) fun _ _ _ hkept => hkept.1)
    fun _ _ _ hmid => hmid.1

/-- What was learned by an attempt that succeeded is known to what follows. -/
theorem Learns.attempt_triple {program : Program Call ε α} {next : Except ε α → Program Call ε β}
    {after : Except ε β → World → Prop} (h : spec.Learns thread fact program known)
    (hok : ∀ value, spec.Triple thread (fun world => fact world ∧ known value world)
      (next (.ok value)) after)
    (herror : ∀ failure, spec.Triple thread fact (next (.error failure)) after) :
    spec.Triple thread fact (program.attempt.bind next) after := by
  refine Triple.attempt_bind h fun result => ?_
  cases result with
  | ok value =>
    exact (hok value).consequence (fun _ _ hmid => ⟨hmid.1, hmid.2 value rfl⟩)
      fun _ _ _ hpost => hpost
  | error failure =>
    exact (herror failure).consequence (fun _ _ hmid => hmid.1) fun _ _ _ hpost => hpost

/-- What a program finds is known to the next, unless it failed. -/
theorem Learns.attempt_bind {program : Program Call ε α} {next : Except ε α → Program Call ε β}
    (known : α → World → Prop) (h : spec.Learns thread fact program known)
    (hok : ∀ value,
      spec.Keeps thread (fun world => fact world ∧ known value world) (next (.ok value)))
    (herror : ∀ failure, spec.Keeps thread fact (next (.error failure))) :
    spec.Keeps thread fact (program.attempt.bind next) :=
  h.attempt_triple (fun value => (hok value).consequence (fun _ _ hmid => hmid)
    fun _ _ _ hkept => hkept.1) herror

end

end Spec

/-- A specification that the machine meets: each step whose thread knows what it must keeps the
invariant, and is one that all other threads expect. -/
structure Contract (machine : Machine Call ε Role Oracle Event World)
    (condition : Condition Call Role Oracle Event World) extends Spec machine condition where
  call_inv : ∀ {β : Type} {thread} {request : Call β} {oracle world}, inv world →
    pre thread request world → condition.call thread request oracle world →
      inv (machine.perform thread request oracle world).2
  call_rely : ∀ {β : Type} {thread other} {request : Call β} {oracle world}, inv world →
    pre thread request world → condition.call thread request oracle world →
      other.number ≠ thread.number →
        rely other world (machine.perform thread request oracle world).2
  launch_inv : ∀ {thread oracle world world'}, inv world → condition.launch thread oracle world →
    machine.launch thread oracle world = some world' → inv world'
  launch_rely : ∀ {thread other oracle world world'}, inv world →
    condition.launch thread oracle world → machine.launch thread oracle world = some world' →
      rely other world world'
  happen_inv : ∀ {event world world'}, inv world → condition.happen event world →
    machine.happen event world = some world' → inv world'
  happen_rely : ∀ {event other world world'}, inv world → condition.happen event world →
    machine.happen event world = some world' → rely other world world'
  restart_inv : ∀ {oracle world}, inv world → condition.restart oracle world →
    inv (machine.restart oracle world)

namespace Contract

variable {machine : Machine Call ε Role Oracle Event World}
  {condition : Condition Call Role Oracle Event World} {contract : Contract machine condition}

/-! ## Soundness -/

/-- What one step may do to the world when the invariant holds and the thread that calls knows what
the contract asks. -/
inductive Moves (contract : Contract machine condition) : World → World → Prop
  | call {β : Type} {thread : Thread Role} {request : Call β} {oracle : Oracle} {world : World}
      (hinv : contract.inv world) (hpre : contract.pre thread request world)
      (hcond : condition.call thread request oracle world)
      (henabled : machine.enabled request world = true) :
      Moves contract world (machine.perform thread request oracle world).2
  | launch {thread : Thread Role} {oracle : Oracle} {world world' : World}
      (hinv : contract.inv world) (hcond : condition.launch thread oracle world)
      (hlaunch : machine.launch thread oracle world = some world') : Moves contract world world'
  | happen {event : Event} {world world' : World} (hinv : contract.inv world)
      (hcond : condition.happen event world) (hhappen : machine.happen event world = some world') :
      Moves contract world world'
  | restart {oracle : Oracle} {world : World} (hinv : contract.inv world)
      (hcond : condition.restart oracle world) :
      Moves contract world (machine.restart oracle world)

/-- Every thread the machine launches starts a program that is safe under the contract. -/
def Launches (contract : Contract machine condition) : Prop :=
  ∀ {thread : Thread Role} {oracle : Oracle} {world world' : World}, contract.inv world →
    condition.launch thread oracle world → machine.launch thread oracle world = some world' →
      contract.Safe thread (fun _ _ => True) (machine.task thread.role) world'

/-- The invariant holds and every thread is safe. -/
def Kept (contract : Contract machine condition) (conf : Conf Call ε Role World) : Prop :=
  contract.inv conf.world ∧ ∀ number role program, conf.threads[number]? = some (role, program) →
    contract.Safe ⟨number, role⟩ (fun _ _ => True) program conf.world

/-- One step keeps the invariant and every thread safe, and moves the world as the contract
allows. -/
theorem Kept.step (launches : contract.Launches) {conf conf' : Conf Call ε Role World}
    (h : contract.Kept conf) (hstep : machine.StepsTo condition conf conf') :
    contract.Kept conf' ∧ contract.Moves conf.world conf'.world := by
  obtain ⟨hinv, hsafe⟩ := h
  obtain ⟨choice, hallows, hstep⟩ := hstep
  cases choice with
  | run number oracle =>
    simp only [Machine.step] at hstep
    split at hstep
    · next role β request next hthread =>
      split at hstep
      · next henabled =>
        cases hstep
        have hcond : condition.call ⟨number, role⟩ request oracle conf.world = true := by
          rw [Condition.allows, hthread] at hallows
          exact hallows
        have hown := hsafe number role _ hthread
        obtain ⟨hpre, hnext⟩ := hown conf.world (contract.rely_refl _ _) hinv
        refine ⟨⟨contract.call_inv hinv hpre hcond, ?_⟩, .call hinv hpre hcond henabled⟩
        intro other otherRole program hother
        rw [List.getElem?_set] at hother
        split at hother
        · next heq =>
          split at hother
          · cases heq
            cases hother
            exact hnext oracle hcond
          · cases hother
        · next hne =>
          exact (hsafe other otherRole program hother).rely
            (contract.call_rely hinv hpre hcond (Ne.symm hne))
      · cases hstep
    · cases hstep
  | launch role oracle =>
    obtain ⟨world, hlaunch, rfl⟩ := Option.map_eq_some_iff.mp hstep
    refine ⟨⟨contract.launch_inv hinv hallows hlaunch, ?_⟩, .launch hinv hallows hlaunch⟩
    intro other otherRole program hother
    rcases Nat.lt_trichotomy other conf.threads.length with hlt | heq | hgt
    · rw [List.getElem?_append_left hlt] at hother
      exact (hsafe other otherRole program hother).rely
        (contract.launch_rely hinv hallows hlaunch)
    · rw [heq, List.getElem?_concat_length] at hother
      cases hother
      rw [heq]
      exact launches hinv hallows hlaunch
    · rw [List.getElem?_eq_none (by simp; omega)] at hother
      cases hother
  | happen event =>
    obtain ⟨world, hhappen, rfl⟩ := Option.map_eq_some_iff.mp hstep
    refine ⟨⟨contract.happen_inv hinv hallows hhappen, ?_⟩, .happen hinv hallows hhappen⟩
    intro other otherRole program hother
    exact (hsafe other otherRole program hother).rely (contract.happen_rely hinv hallows hhappen)
  | restart oracle =>
    cases hstep
    refine ⟨⟨contract.restart_inv hinv hallows, ?_⟩, .restart hinv hallows⟩
    intro other otherRole program hother
    -- A thread of the process that stopped has nothing left to do.
    rw [List.getElem?_map] at hother
    obtain ⟨ended, -, heq⟩ := Option.map_eq_some_iff.mp hother
    cases heq
    exact fun _ _ _ => trivial

/-- A run keeps the invariant and every thread safe, and moves the world step by step as the
contract allows. -/
theorem Kept.run (launches : contract.Launches) {conf conf' : Conf Call ε Role World}
    (h : contract.Kept conf) (hrun : machine.RunsTo condition conf conf') :
    contract.Kept conf' ∧ ReflTransGen contract.Moves conf.world conf'.world := by
  induction hrun with
  | refl => exact ⟨h, .refl⟩
  | tail _ hstep ih =>
    obtain ⟨hkept, hmoves⟩ := ih.1.step launches hstep
    exact ⟨hkept, ih.2.tail hmoves⟩

/-- A process that just started has nothing to know yet. -/
theorem kept_of_start {world : World} (hinv : contract.inv world) :
    contract.Kept (⟨world, []⟩ : Conf Call ε Role World) :=
  ⟨hinv, fun number role program h => by simp at h⟩

/-- A thread that stands at a call knows what the call needs. -/
theorem Kept.pre_of_standsAt {conf : Conf Call ε Role World} (h : contract.Kept conf)
    {number : Nat} {kind : {β : Type} → Call β → Bool} (hstands : conf.standsAt number kind = true) :
    ∃ role, ∃ β : Type, ∃ request : Call β, kind request = true ∧
      (conf.threads[number]?).map Prod.fst = some role ∧
        contract.pre ⟨number, role⟩ request conf.world := by
  unfold Conf.standsAt at hstands
  split at hstands
  · next role β request next hthread =>
    have hsafe := h.2 number role _ hthread conf.world (contract.rely_refl _ _) h.1
    exact ⟨role, β, request, hstands, by rw [hthread]; rfl, hsafe.1⟩
  · cases hstands

/-- A move keeps the invariant. -/
theorem Moves.inv {world world' : World} (h : contract.Moves world world') :
    contract.inv world' := by
  cases h with
  | call hinv hpre hcond _ => exact contract.call_inv hinv hpre hcond
  | launch hinv hcond hlaunch => exact contract.launch_inv hinv hcond hlaunch
  | happen hinv hcond hhappen => exact contract.happen_inv hinv hcond hhappen
  | restart hinv hcond => exact contract.restart_inv hinv hcond

/-- What every move keeps, a run of moves keeps. -/
theorem Moves.run_induction (fact : World → Prop)
    (hmove : ∀ {world world'}, fact world → contract.Moves world world' → fact world')
    {world world' : World} (hrun : ReflTransGen contract.Moves world world') (hfact : fact world) :
    fact world' := by
  induction hrun with
  | refl => exact hfact
  | tail _ hstep ih => exact hmove ih hstep

end Contract

end Pool
