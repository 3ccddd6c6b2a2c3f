import Serbero.Lib.Companion
import Serbero.Runtime.Looks

/-! # Which turns run

A session has one turn at a time. The turn loop knows a turn by its thread, so a call of the thread
is a call of the turn it was launched for. -/

namespace Serbero

open Pool

/-- The thread runs a turn of the session. -/
def World.Runs (world : World) (number : Nat) (id : SessionId) : Prop :=
  (number, id) ∈ world.running

/-- Nobody runs a turn of the session. -/
def World.Rested (world : World) (id : SessionId) : Prop := ∀ number, ¬world.Runs number id

/-- No session has two turns that run. -/
def World.Seated (world : World) : Prop := (world.running.map Prod.snd).Nodup

/-- The call ends a turn. -/
def Call.ends {β : Type} : Call β → Bool
  | .joinTurn _ => true
  | _ => false

variable {deployment : Deployment} {thread : Thread Task}

/-! ## What changes the turns that run -/

/-- Every call but the end of a turn leaves the turns that run. -/
theorem performCall_running {β : Type} {call : Call β} (hcall : call.ends = false)
    (oracle : Oracle) (world : World) :
    (performCall deployment thread call oracle world).2.running = world.running := by
  have hmakes := performCall_makes deployment thread call oracle world
  generalize (performCall deployment thread call oracle world).2 = later at hmakes ⊢
  cases hmakes with
  | joinTurn => cases hcall
  | _ => rfl

/-- A turn that ends is the thread's. -/
theorem performCall_joinTurn (again : Bool) (oracle : Oracle) (world : World) :
    (performCall deployment thread (.joinTurn again) oracle world).2.running =
      world.running.filter fun entry => entry.1 != thread.number := by
  change (world.turnOver thread.number again).running = _
  unfold World.turnOver
  split
  · next hfind =>
    symm
    rw [List.filter_eq_self]
    intro entry hentry
    have hother := List.find?_eq_none.mp hfind entry hentry
    simpa using hother
  · simp only []
    split <;> rfl

/-- A call only takes away turns that run. -/
theorem performCall_running_sublist {β : Type} (call : Call β) (oracle : Oracle) (world : World) :
    (performCall deployment thread call oracle world).2.running.Sublist world.running := by
  by_cases hcall : call.ends = false
  · rw [performCall_running hcall]
  · cases call with
    | joinTurn again =>
      rw [performCall_joinTurn]
      exact List.filter_sublist
    | _ => exact absurd rfl hcall

/-- Nobody else ends a thread's turn. -/
theorem runs_performCall {β : Type} {call : Call β} {oracle : Oracle} {world : World} {number : Nat}
    {id : SessionId} (h : world.Runs number id)
    (hcall : number ≠ thread.number ∨ call.ends = false) :
    (performCall deployment thread call oracle world).2.Runs number id := by
  unfold World.Runs
  by_cases hends : call.ends = false
  · rw [performCall_running hends]
    exact h
  · have hother := hcall.resolve_right hends
    cases call with
    | joinTurn again =>
      rw [performCall_joinTurn, List.mem_filter]
      exact ⟨h, bne_iff_ne.mpr hother⟩
    | _ => exact absurd rfl hends

/-- A turn that starts runs. -/
theorem launch_turn {world later : World} {id : SessionId} (hrole : thread.role = .turn id)
    (h : launch thread world = some later) :
    world.Rested id ∧ later.running = world.running ++ [(thread.number, id)] := by
  simp only [launch, hrole] at h
  split at h
  · next hfree =>
    cases h
    refine ⟨fun number hruns => ?_, rfl⟩
    rw [Bool.and_eq_true, Bool.not_eq_true'] at hfree
    have hother := List.any_eq_false.mp hfree.2 _ hruns
    exact hother (beq_self_eq_true id)
  · cases h

/-- A turn starts when none of its session runs; nothing else starts one. -/
theorem launch_running {world later : World} (h : launch thread world = some later) :
    later.running = world.running ∨ ∃ id, thread.role = .turn id ∧ world.Rested id ∧
      later.running = world.running ++ [(thread.number, id)] := by
  by_cases hturn : ∃ id, thread.role = .turn id
  · obtain ⟨id, hrole⟩ := hturn
    obtain ⟨hrested, hadded⟩ := launch_turn hrole h
    exact Or.inr ⟨id, hrole, hrested, hadded⟩
  · left
    unfold launch at h
    split at h
    · next id hrole => exact absurd ⟨id, hrole⟩ hturn
    all_goals
      first
        | (split at h <;> cases h; rfl)
        | (cases h; rfl)

/-- Nothing that happens outside starts or ends a turn. -/
theorem happen_running {happening : Happening} {world later : World}
    (h : happen deployment happening world = some later) : later.running = world.running := by
  rcases (happen_traffic h).2 with hsame | ⟨message, -, -, hadded⟩
  · exact congrArg Traffic.running hsame
  · exact congrArg Traffic.running hadded

/-! ## No session has two -/

namespace World.Seated

variable {world later : World}

/-- A call keeps every turn in its seat. -/
theorem call (h : world.Seated) {β : Type} (call : Call β) (oracle : Oracle) :
    (performCall deployment thread call oracle world).2.Seated :=
  h.sublist ((performCall_running_sublist call oracle world).map Prod.snd)

/-- So does the start of a task. -/
theorem launch (h : world.Seated) (hlaunch : Serbero.launch thread world = some later) :
    later.Seated := by
  unfold World.Seated
  rcases launch_running hlaunch with hsame | ⟨id, -, hrested, hadded⟩
  · rw [hsame]
    exact h
  · rw [hadded, List.map_append, List.map_singleton, List.nodup_append]
    refine ⟨h, List.nodup_singleton id, fun other hother found hfound heq => ?_⟩
    obtain ⟨entry, hentry, rfl⟩ := List.mem_map.mp hother
    have hid : entry.2 = id := heq.trans (List.mem_singleton.mp hfound)
    exact hrested entry.1 (hid ▸ hentry)

/-- Two threads that run turns of a session are one. -/
theorem eq_of_runs (h : world.Seated) {number number' : Nat} {id : SessionId}
    (hruns : world.Runs number id) (hruns' : world.Runs number' id) : number = number' :=
  congrArg Prod.fst (List.inj_on_of_nodup_map h hruns hruns' rfl)

end World.Seated

/-! ## A thread runs the turn it was launched for -/

/-- Each turn that runs is the task of its thread. -/
def Manned (conf : Conf Call String Task World) : Prop :=
  ∀ number id, conf.world.Runs number id →
    ∃ program, conf.threads[number]? = some (.turn id, program)

/-- A step leaves each running turn to the thread it was launched for. -/
theorem Manned.step {conf conf' : Conf Call String Task World} (h : Manned conf)
    (hstep : (machine deployment).StepsTo Condition.always conf conf') : Manned conf' := by
  obtain ⟨choice, -, hstep⟩ := hstep
  intro number id hruns
  cases choice with
  | run other oracle =>
    simp only [Machine.step] at hstep
    split at hstep
    · next role β request next hthread =>
      split at hstep
      · cases hstep
        obtain ⟨program, hprogram⟩ := h number id
          ((performCall_running_sublist request oracle conf.world).subset hruns)
        by_cases heq : other = number
        · -- The thread that calls keeps its task.
          subst heq
          rw [hprogram] at hthread
          cases hthread
          have hlt := (List.getElem?_eq_some_iff.mp hprogram).1
          exact ⟨_, List.getElem?_set_self hlt⟩
        · exact ⟨program, (List.getElem?_set_ne heq).trans hprogram⟩
      · cases hstep
    · cases hstep
  | launch role oracle =>
    obtain ⟨world, hlaunch, rfl⟩ := Option.map_eq_some_iff.mp hstep
    have old : conf.world.Runs number id →
        ∃ program, (conf.threads ++ [(role, (machine deployment).task role)])[number]? =
          some (.turn id, program) := by
      intro hbefore
      obtain ⟨program, hprogram⟩ := h number id hbefore
      refine ⟨program, ?_⟩
      rw [List.getElem?_append_left (List.getElem?_eq_some_iff.mp hprogram).1]
      exact hprogram
    rcases launch_running hlaunch with hsame | ⟨started, hrole, -, hadded⟩
    · rw [World.Runs, hsame] at hruns
      exact old hruns
    · rw [World.Runs, hadded] at hruns
      rcases List.mem_append.mp hruns with hbefore | hnew
      · exact old hbefore
      · cases List.mem_singleton.mp hnew
        cases hrole
        exact ⟨_, List.getElem?_concat_length⟩
  | happen event =>
    obtain ⟨world, hhappen, rfl⟩ := Option.map_eq_some_iff.mp hstep
    rw [World.Runs, happen_running hhappen] at hruns
    exact h number id hruns
  | restart oracle =>
    cases hstep
    exact absurd hruns List.not_mem_nil

/-- **Any run** does, by induction on its steps. -/
theorem manned_of_run {clock : Int} {conf : Conf Call String Task World}
    (hrun : (machine deployment).RunsTo Condition.always ⟨World.start clock, []⟩ conf) :
    Manned conf := by
  induction hrun with
  | refl => exact fun number id hruns => absurd hruns List.not_mem_nil
  | tail _ hstep ih => exact ih.step hstep

/-- The thread calls as the turn it runs, if it runs one. -/
def World.manned (world : World) (thread : Thread Task) : Bool :=
  world.running.all fun entry => entry.1 != thread.number || thread.role == .turn entry.2

/-- A thread that runs a session's turn is that turn. -/
theorem World.role_of_manned {world : World} (h : world.manned thread = true) {id : SessionId}
    (hruns : world.Runs thread.number id) : thread.role = .turn id := by
  have hentry := List.all_eq_true.mp h _ hruns
  simpa using hentry

section

variable {Deed Notes : Type} {companion : Companion (machine deployment) Deed Notes}

/-- The condition, and that threads call as the turns they run. -/
def mannedBoth (both : Condition Call Task Oracle (Happening ⊕ Deed) (World × Notes)) :
    Condition Call Task Oracle (Happening ⊕ Deed) (World × Notes) :=
  { both with
    call := fun thread call oracle world =>
      both.call thread call oracle world && world.1.manned thread }

/-- In every run threads call as the turns they run. -/
theorem runsTo_manned {both : Condition Call Task Oracle (Happening ⊕ Deed) (World × Notes)}
    {clock : Int} {notes : Notes} {conf : Conf Call String Task (World × Notes)}
    (h : companion.beside.RunsTo both ⟨(World.start clock, notes), []⟩ conf) :
    companion.beside.RunsTo (mannedBoth both) ⟨(World.start clock, notes), []⟩ conf := by
  refine h.strengthen fun reached choice hrun hallows => ?_
  have hmanned : Manned reached.alone :=
    manned_of_run (Companion.runsTo_alone (Condition.within_always both) hrun)
  cases choice with
  | run number oracle =>
    cases hthread : reached.threads[number]? with
    | none =>
      rw [Condition.allows, hthread]
    | some found =>
      obtain ⟨role, program⟩ := found
      rw [Condition.allows, hthread] at hallows ⊢
      cases program with
      | call request next =>
        simp only [mannedBoth, Bool.and_eq_true] at hallows ⊢
        refine ⟨hallows, List.all_eq_true.mpr fun entry hentry => ?_⟩
        by_cases heq : entry.1 = number
        · obtain ⟨program, hprogram⟩ := hmanned entry.1 entry.2 hentry
          have hsame : reached.threads[entry.1]? = some (.turn entry.2, program) := hprogram
          rw [heq, hthread] at hsame
          cases hsame
          simp
        · simp [heq]
      | _ => rfl
  | launch role oracle => exact hallows
  | happen event => exact hallows
  | restart oracle => exact hallows

end

end Serbero
