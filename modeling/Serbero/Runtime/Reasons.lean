import Serbero.Lib.Beside
import Serbero.Policy.Grounds
import Serbero.Runtime.Records
import Serbero.Runtime.Strikes
import Serbero.Runtime.Walks

/-! # Why a session was handed off, guided or held

Serbero decides three things about a session: to hand it to a human, to guide the parties, and to
hold. Whoever reads the store afterwards finds what each decision rests on: the evaluation of a turn
whose answers show it, or what the timers and the flood check count. -/

namespace Serbero

open Pool
open Pool.Program

/-! ## What is on record -/

/-- The evaluation of a turn that took the action, with answers that show why. -/
structure Evaluation.Supports (deployment : Deployment) (id : SessionId) (action : Action)
    (evaluation : Evaluation) : Prop where
  sessionId : evaluation.sessionId = id
  version : evaluation.questionSetVersion = deployment.turnQuestions
  took : evaluation.action = action
  grounds : (Facts.fromAnswers evaluation.answers deployment.thresholds
    deployment.settings.languages).Grounds action

namespace Store

variable (store : Store) (deployment : Deployment) (id : SessionId)

/-- A turn that took the action is on record. -/
def Supports (action : Action) : Prop :=
  ∃ evaluation ∈ store.evaluations, evaluation.Supports deployment id action

/-- The party wrote in the session. -/
def HeardFrom (party : Party) : Prop :=
  ∃ row ∈ store.messages, row.sessionId = id ∧ row.isFrom party = true

/-- Some party of the session was sent a reminder. -/
def Reminded : Prop :=
  ∃ row ∈ store.messages, row.sessionId = id ∧ ∃ party, row.isSent party .reminder = true

/-- How many flood strikes of a party are on record. -/
def strikesOf (party : Party) : Nat :=
  store.events.countP fun event => (strikeOf id event).any fun strike => strike.1 == party

/-- What must be on record for a decision about a session. -/
def Explains : Action → Prop
  | .handoff .selfResolutionStalled => ∃ path, store.Supports deployment id (.guide path)
  | .handoff .factsGathered =>
    (store.Supports deployment id (.handoff .factsGathered) ∨ store.Supports deployment id .hold) ∧
      ∀ party, store.HeardFrom id party
  | .handoff .unresponsive => store.Reminded id
  | .handoff .flood => ∃ party, floodStrikes ≤ store.strikesOf id party
  -- Nothing was judged: the judge or the opening failed.
  | .handoff .judgeUnavailable | .handoff .openingFailed => True
  | .handoff reason => store.Supports deployment id (.handoff reason)
  | .guide path => store.Supports deployment id (.guide path)
  | .hold => store.Supports deployment id .hold ∧ ∀ party, store.HeardFrom id party
  | .ask _ _ | .wait => True

variable {store deployment id} {grown : Store}

/-- What supports an action still does in a later store. -/
theorem Supports.later {action : Action} (h : store.Supports deployment id action)
    (hlater : store.Later grown) : grown.Supports deployment id action := by
  obtain ⟨evaluation, hmem, hsupports⟩ := h
  exact ⟨evaluation, hlater.evaluations.subset hmem, hsupports⟩

/-- A party once heard was heard. -/
theorem HeardFrom.later {party : Party} (h : store.HeardFrom id party)
    (hlater : store.Later grown) : grown.HeardFrom id party := by
  obtain ⟨row, hrow, hfrom⟩ := h
  exact ⟨row, hlater.messages.subset hrow, hfrom⟩

/-- Strikes are never taken back. -/
theorem strikesOf_mono (hlater : store.Later grown) (party : Party) :
    store.strikesOf id party ≤ grown.strikesOf id party :=
  hlater.events.sublist.countP_le

/-- What explains a decision explains it for good. -/
theorem Explains.later {action : Action} (h : store.Explains deployment id action)
    (hlater : store.Later grown) : grown.Explains deployment id action := by
  cases action with
  | ask buyer seller => exact trivial
  | wait => exact trivial
  | guide path => exact Supports.later h hlater
  | hold => exact ⟨Supports.later h.1 hlater, fun party => (h.2 party).later hlater⟩
  | handoff reason =>
    cases reason with
    | selfResolutionStalled =>
      obtain ⟨path, hpath⟩ := h
      exact ⟨path, Supports.later hpath hlater⟩
    | factsGathered =>
      exact ⟨h.1.imp (Supports.later · hlater) (Supports.later · hlater),
        fun party => (h.2 party).later hlater⟩
    | unresponsive =>
      obtain ⟨row, hrow, hreminder⟩ := h
      exact ⟨row, hlater.messages.subset hrow, hreminder⟩
    | flood =>
      obtain ⟨party, hparty⟩ := h
      exact ⟨party, hparty.trans (strikesOf_mono hlater party)⟩
    | judgeUnavailable => exact trivial
    | openingFailed => exact trivial
    | conflictingClaims => exact Supports.later h hlater
    | fraudSignal => exact Supports.later h hlater
    | humanRequested => exact Supports.later h hlater
    | outsideScope => exact Supports.later h hlater
    | roundLimit => exact Supports.later h hlater
    | uncertain => exact Supports.later h hlater

/-- What a turn decided, and its table picked, is explained by the evaluation it recorded. -/
theorem explains_of_backs {turn : Turn} {action : Action} (hbacks : turn.Backs action)
    (hsupports : store.Supports deployment id action)
    (hguiding : turn.phase = .guiding → ∃ path, store.Supports deployment id (.guide path))
    (hheard : turn.buyerHeard = true ∧ turn.sellerHeard = true →
      ∀ party, store.HeardFrom id party) : store.Explains deployment id action := by
  cases action with
  | ask buyer seller => exact trivial
  | wait => exact trivial
  | guide path => exact hsupports
  | hold => exact ⟨hsupports, hheard (hbacks.heard rfl)⟩
  | handoff reason =>
    -- The reasons that no turn decides have no grounds.
    have hgrounds : turn.facts.GroundsHandoff reason := hbacks.grounds
    cases reason with
    | selfResolutionStalled => exact hguiding (hbacks.guiding rfl)
    | factsGathered => exact ⟨Or.inl hsupports, hheard (hbacks.heard rfl)⟩
    | unresponsive => exact hgrounds.elim
    | flood => exact hgrounds.elim
    | judgeUnavailable => exact trivial
    | openingFailed => exact trivial
    | conflictingClaims => exact hsupports
    | fraudSignal => exact hsupports
    | humanRequested => exact hsupports
    | outsideScope => exact hsupports
    | roundLimit => exact hsupports
    | uncertain => exact hsupports

end Store

/-! ## What is decided -/

/-- What a call decides about a session. -/
def Call.decides {β : Type} : Call β → Option (SessionId × Action)
  | .handOff session reason _ => some (session.sessionId, .handoff reason)
  | .startGuiding session path _ => some (session.sessionId, .guide path)
  | .recordHold session _ => some (session.sessionId, .hold)
  | _ => none

/-- The decision was taken about the session. -/
def World.Took (world : World) (id : SessionId) : Action → Prop
  | .handoff reason => ∃ last, (id, Claimer.handOff reason last) ∈ world.claims
  | .guide path => ∃ event ∈ world.store.marks, event.sessionId = some id ∧ event.kind = .guided path
  | .hold => ∃ event ∈ world.store.marks, event.sessionId = some id ∧ ∃ last, event.kind = .held last
  | .ask _ _ | .wait => False

/-- Everything that was decided is explained. -/
def World.Explained (deployment : Deployment) (world : World) : Prop :=
  ∀ id action, world.Took id action → world.store.Explains deployment id action

variable {deployment : Deployment} {thread : Thread Task}

/-- A hand-off was claimed before, or the call claims it. -/
theorem performCall_took_handoff {β : Type} (call : Call β) (oracle : Oracle) (world : World)
    {id : SessionId} {reason : HandoffReason} {last : Int}
    (h : (id, Claimer.handOff reason last) ∈
      (performCall deployment thread call oracle world).2.claims) :
    (id, Claimer.handOff reason last) ∈ world.claims ∨
      call.decides = some (id, .handoff reason) := by
  rcases performCall_claims_cases deployment thread call oracle world with hsame | ⟨added, hadded, hlogs⟩
  · exact Or.inl (hsame ▸ h)
  rw [hadded] at h
  rcases List.mem_append.mp h with hold | hlast
  · exact Or.inl hold
  obtain rfl := List.mem_singleton.mp hlast
  cases call with
  | handOff session found now =>
    obtain ⟨last, heq⟩ := hlogs
    cases heq
    exact Or.inr rfl
  | abandon dispute about why now =>
    -- An opening that is given up is claimed in its own name.
    cases about with
    | none => cases hlogs
    | some about => cases hlogs
  | _ => cases hlogs

/-- A guidance or a hold is on record, or the call records it. -/
theorem performCall_took_mark {β : Type} (call : Call β) (oracle : Oracle) {world : World}
    (hneeds : Needs thread call world) {id : SessionId} {event : Event}
    (hevent : event ∈ (performCall deployment thread call oracle world).2.store.marks)
    (hid : event.sessionId = some id) :
    event ∈ world.store.marks ∨
      (∀ path, event.kind = .guided path → call.decides = some (id, .guide path)) ∧
        (∀ last, event.kind = .held last → call.decides = some (id, .hold)) := by
  obtain ⟨more, heq, hmore⟩ := performCall_logs deployment thread call oracle world
  have hsplit : event ∈ world.store.marks ∨ call.logs event.kind = true := by
    obtain ⟨hmem, hmark⟩ := List.mem_filter.mp hevent
    rw [heq] at hmem
    rcases List.mem_append.mp hmem with hold | hnew
    · exact Or.inl (List.mem_filter.mpr ⟨hold, hmark⟩)
    · exact Or.inr (hmore event hnew)
  rcases hsplit with hold | hlogs
  · exact Or.inl hold
  have other : (∀ path, event.kind ≠ .guided path) → (∀ last, event.kind ≠ .held last) →
      (∀ path, event.kind = .guided path → call.decides = some (id, .guide path)) ∧
        (∀ last, event.kind = .held last → call.decides = some (id, .hold)) :=
    fun hguided hheld => ⟨fun path hkind => absurd hkind (hguided path),
      fun last hkind => absurd hkind (hheld last)⟩
  cases call with
  | startGuiding session path now =>
    simp only [performCall, World.orFail] at hevent
    split at hevent
    · exact Or.inl hevent
    split at hevent
    · exact Or.inl hevent
    next pending store hclaim =>
    obtain ⟨-, -, -, -, -, guided, brief, hmarks, hguidedId, hguided, -, hbrief⟩ :=
      Stepped.claimGuiding_spec hclaim
    rw [World.withStore, hmarks] at hevent
    simp only [List.mem_append, List.mem_cons, List.not_mem_nil, or_false] at hevent
    rcases hevent with hold | rfl | rfl
    · exact Or.inl hold
    · rw [hguidedId, Option.some.injEq] at hid
      subst hid
      refine Or.inr ⟨fun found hkind => ?_, fun last hkind => ?_⟩
      · rw [hguided] at hkind
        cases hkind
        rfl
      · rw [hguided] at hkind
        cases hkind
    · exact Or.inr (other (fun _ => by simp [hbrief]) fun _ => by simp [hbrief])
  | recordHold session now =>
    simp only [performCall, World.orFail] at hevent
    split at hevent
    · exact Or.inl hevent
    change event ∈ (world.store.append _).marks at hevent
    rw [Store.append_marks_of_mark _ rfl] at hevent
    rcases List.mem_append.mp hevent with hold | hnew
    · exact Or.inl hold
    · rw [List.mem_singleton.mp hnew] at hid ⊢
      cases hid
      refine Or.inr ⟨fun path hkind => ?_, fun last _ => rfl⟩
      cases hkind
  | append new =>
    -- No task appends a mark on its own.
    right
    have hkind : event.kind = new.kind := by simpa [Call.logs] using hlogs
    have hmark : new.kind.isMark = false := hneeds
    refine other (fun path hguided => ?_) fun last hheld => ?_
    · rw [← hkind, hguided] at hmark
      cases hmark
    · rw [← hkind, hheld] at hmark
      cases hmark
  | _ =>
    right
    refine other (fun path hguided => ?_) fun last hheld => ?_
    · rw [hguided] at hlogs
      cases hlogs
    · rw [hheld] at hlogs
      cases hlogs

/-- A decision was taken before, or the call takes it. -/
theorem performCall_took {β : Type} (call : Call β) (oracle : Oracle) {world : World}
    (hneeds : Needs thread call world) {id : SessionId} {action : Action}
    (h : (performCall deployment thread call oracle world).2.Took id action) :
    world.Took id action ∨ call.decides = some (id, action) := by
  cases action with
  | ask buyer seller => exact h.elim
  | wait => exact h.elim
  | handoff reason =>
    obtain ⟨last, hclaim⟩ := h
    exact (performCall_took_handoff call oracle world hclaim).imp_left fun hold => ⟨last, hold⟩
  | guide path =>
    obtain ⟨event, hevent, hid, hkind⟩ := h
    exact (performCall_took_mark call oracle hneeds hevent hid).imp
      (fun hold => ⟨event, hold, hid, hkind⟩) fun hnew => hnew.1 path hkind
  | hold =>
    obtain ⟨event, hevent, hid, last, hkind⟩ := h
    exact (performCall_took_mark call oracle hneeds hevent hid).imp
      (fun hold => ⟨event, hold, hid, last, hkind⟩) fun hnew => hnew.2 last hkind

/-- What happens outside the tasks decides nothing. -/
theorem took_of_store {world later : World} {id : SessionId} {action : Action}
    (hclaims : later.claims = world.claims) (hevents : later.store.events = world.store.events)
    (h : later.Took id action) : world.Took id action := by
  have hmarks : later.store.marks = world.store.marks := by rw [Store.marks, Store.marks, hevents]
  cases action with
  | ask buyer seller => exact h
  | wait => exact h
  | handoff reason =>
    obtain ⟨last, hclaim⟩ := h
    exact ⟨last, hclaims ▸ hclaim⟩
  | guide path =>
    obtain ⟨event, hevent, hguided⟩ := h
    exact ⟨event, hmarks ▸ hevent, hguided⟩
  | hold =>
    obtain ⟨event, hevent, hheld⟩ := h
    exact ⟨event, hmarks ▸ hevent, hheld⟩

end Serbero
