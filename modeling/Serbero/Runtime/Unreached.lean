import Serbero.Runtime.Silence
import Serbero.Runtime.Turns

/-! # Openings that failed

A session that could not be opened is handed off without a word to the parties: none of its messages
is being sent then, and the timers leave its parties alone afterwards. A pass of the timers that finds
the chat of a session closed gives the same reason, and tells the parties as any hand-off does. -/

namespace Serbero

open Pool Relation
open Pool.Program

variable {deployment : Deployment} {thread : Thread Task} {id : SessionId}

/-- No pass of the timers claims the session because its chat is not open. -/
def chatKept (id : SessionId) : Condition Call Task Oracle Happening World where
  call _ request oracle world :=
    match request with
    | .handOff session reason now =>
      session.sessionId != id || reason != .openingFailed || oracle.fails.isSome ||
        !(world.store.handOff session.sessionId reason now).1
    | _ => true
  launch _ _ _ := true
  happen _ _ := true
  restart _ _ := true

namespace World

/-- The session as it was once read: it moved forward since. -/
def Shows (world : World) (session : Session) : Prop :=
  ∃ row, world.core.sessions[session.sessionId]? = some row ∧ session.Becomes row ∧
    (session.state = .handedOff → session.handoffReason ≠ none)

/-- The opening of the session ended. -/
def Begun (world : World) (id : SessionId) : Prop :=
  ∃ row, world.core.sessions[id]? = some row ∧ 1 ≤ row.state.stage

/-- The session was handed off, and its parties may hear of it. -/
def Heard (world : World) (id : SessionId) : Prop :=
  ∃ row, world.core.sessions[id]? = some row ∧ ∃ reason ≠ HandoffReason.openingFailed,
    row.handoffReason = some reason

/-- The session was claimed for a hand-off that its parties may hear of. -/
def HandedOver (world : World) (id : SessionId) : Prop :=
  ∃ reason ≠ HandoffReason.openingFailed, ∃ last, (id, Claimer.handOff reason last) ∈ world.claims

/-- A thread may be sending messages of the session: its opening did not fail, and while it lasts
they are of the thread that opens. -/
def Carries (world : World) (id : SessionId) (number : Nat) : Prop :=
  ∃ row, world.core.sessions[id]? = some row ∧ row.handoffReason ≠ some .openingFailed ∧
    (row.state = .opening → world.core.openedBy[id]? = some number)

/-- The messages of the session that the thread is sending. -/
def ownSending (world : World) (number : Nat) (id : SessionId) : List (Nat × Passed) :=
  world.sending.filter fun entry => entry.1 == number && entry.2.sessionId == id

/-- What is being sent may be, and what was read only moved forward. -/
structure Unbroken (id : SessionId) (world : World) : Prop where
  past : ∀ look ∈ world.looks, ∀ session ∈ look.store.sessions, world.Shows session
  carried : ∀ entry ∈ world.sending, entry.2.sessionId = id → world.Carries id entry.1

variable {world later : World}

/-- What was read only moves forward. -/
theorem Shows.mono {session : Session} (h : world.Shows session) (hfollows : world.Follows later) :
    later.Shows session := by
  obtain ⟨row, hrow, hbecomes, hreason⟩ := h
  obtain ⟨found, hfound, hbecomes', -⟩ := hfollows.core.sessions _ row hrow
  exact ⟨found, hfound, hbecomes.trans hbecomes', hreason⟩

/-- A stored session is shown. -/
theorem shows_of_mem (h : world.core.Inv) {session : Session}
    (hmem : session ∈ world.store.sessions) : world.Shows session :=
  ⟨session, h.getElem?_of_mem hmem, .refl session, (h.documented session hmem).handed⟩

/-- A session that was once past its opening is. -/
theorem Shows.begun {session : Session} (h : world.Shows session)
    (hstage : 1 ≤ session.state.stage) : world.Begun session.sessionId := by
  obtain ⟨row, hrow, hbecomes, -⟩ := h
  exact ⟨row, hrow, hstage.trans hbecomes.stage⟩

/-- A session that was once handed off for another reason is heard of. -/
theorem Shows.heard {session : Session} (h : world.Shows session)
    (hstate : session.state = .handedOff) (hreason : session.handoffReason ≠ some .openingFailed) :
    world.Heard session.sessionId := by
  obtain ⟨row, hrow, hbecomes, hhanded⟩ := h
  obtain ⟨reason, hsome⟩ := Option.ne_none_iff_exists'.mp (hhanded hstate)
  refine ⟨row, hrow, reason, ?_, hbecomes.reason reason hsome⟩
  rintro rfl
  exact hreason hsome

/-- A claim gives its reason. -/
theorem HandedOver.heard (h : world.core.Inv) (hover : world.HandedOver id) : world.Heard id := by
  obtain ⟨reason, hother, last, hmem⟩ := hover
  obtain ⟨-, -, -, -, handed, hhanded, hsession, hreason⟩ := h.logged _ hmem
  refine ⟨handed, ?_, reason, hother, hreason⟩
  rw [← show handed.sessionId = id from hsession]
  exact h.getElem?_of_mem hhanded

/-- What is heard of is past its opening. -/
theorem Heard.begun (h : world.core.Inv) (hheard : world.Heard id) : world.Begun id := by
  obtain ⟨row, hrow, reason, -, hreason⟩ := hheard
  refine ⟨row, hrow, ?_⟩
  by_contra hearly
  rw [(h.documented row (List.mem_of_getElem? hrow)).early (by omega)] at hreason
  cases hreason

/-- What is heard of may be sent. -/
theorem Heard.carries (h : world.core.Inv) (hheard : world.Heard id) (number : Nat) :
    world.Carries id number := by
  obtain ⟨row, hrow, reason, hother, hreason⟩ := hheard
  refine ⟨row, hrow, fun hfailed => ?_, fun hstate => ?_⟩
  · rw [hreason, Option.some.injEq] at hfailed
    exact hother hfailed
  · rw [(h.documented row (List.mem_of_getElem? hrow)).early (by rw [hstate]; decide)] at hreason
    cases hreason

/-- What is being sent stays so while the session is not claimed anew. -/
theorem Carries.mono {number : Nat} (h : world.core.Inv) (h' : later.core.Inv)
    (hfollows : world.Follows later) (hcarries : world.Carries id number)
    (hclaims : ∀ claim ∈ later.claims, claim.1 = id → claim ∈ world.claims) :
    later.Carries id number := by
  obtain ⟨row, hrow, hreason, hopening⟩ := hcarries
  obtain ⟨found, hfound, hbecomes, -⟩ := hfollows.core.sessions id row hrow
  refine ⟨found, hfound, ?_, fun hstate => hfollows.core.opener (hopening ?_)⟩
  · rw [reason_of_claims h h' hfollows hrow hfound hclaims]
    exact hreason
  · -- No session goes back to opening.
    have hstage := hbecomes.stage
    rw [hstate] at hstage
    cases hcase : row.state <;> rw [hcase] at hstage <;> first | rfl | exact absurd hstage (by decide)

end World

/-! ## What the calls do to it -/

/-- The call checks the gate. -/
def Call.isGate {β : Type} : Call β → Bool
  | .gate _ _ => true
  | _ => false

/-- Without the gate no more is being sent, and at most a message of the thread is no longer. -/
theorem performCall_sending (deployment : Deployment) {β : Type} (thread : Thread Task)
    (call : Call β) (hcall : call.isGate = false) (oracle : Oracle) (world : World) :
    (performCall deployment thread call oracle world).2.sending = world.sending ∨ ∃ message,
      (performCall deployment thread call oracle world).2.sending =
        world.sending.erase (thread.number, message) := by
  have hmakes := performCall_makes deployment thread call oracle world
  generalize (performCall deployment thread call oracle world).2 = later at hmakes ⊢
  cases hmakes with
  | gate => cases hcall
  | unsent => exact Or.inr ⟨_, rfl⟩
  | sent => exact Or.inr ⟨_, rfl⟩
  | _ => exact Or.inl rfl

/-- What a thread sends is read off the messages on their way. -/
theorem ownSending_congr {world later : World} {number : Nat}
    (hsending : later.sending = world.sending) :
    later.ownSending number id = world.ownSending number id := by
  rw [World.ownSending, World.ownSending, hsending]

/-- What a thread sends, another leaves alone. -/
theorem ownSending_performCall (deployment : Deployment) {β : Type} (call : Call β)
    (oracle : Oracle) (world : World) {number : Nat} (hother : number ≠ thread.number) :
    (performCall deployment thread call oracle world).2.ownSending number id =
      world.ownSending number id := by
  have hnone : ∀ message : Passed, (thread.number == number && message.sessionId == id) = false :=
    fun message => by rw [beq_false_of_ne hother.symm, Bool.false_and]
  unfold World.ownSending
  by_cases hgate : call.isGate = true
  · cases call with
    | gate rule message =>
      rcases gate_cases deployment thread rule message oracle world with hsame | ⟨-, hpassed⟩
      · rw [hsame]
      · rw [hpassed, List.filter_append, List.filter_singleton, hnone, Bool.cond_false,
          List.append_nil]
    | _ => cases hgate
  · rcases performCall_sending deployment thread call (by simpa using hgate) oracle world with
      hsame | ⟨message, herased⟩
    · rw [hsame]
    · rw [herased, ← List.erase_filter]
      refine List.erase_of_not_mem fun hmem => ?_
      have hmine := (List.mem_filter.mp hmem).2
      rw [hnone] at hmine
      cases hmine

/-- What a task must know before it sends for the session, or gives it up. -/
def Heeds (id : SessionId) (thread : Thread Task) {β : Type} (call : Call β) (world : World) :
    Prop :=
  match call with
  | .gate .live message =>
    message.sessionId = id → message.template = .handoffNotice → world.Heard id
  | .gate .mediating message => message.sessionId = id → world.Begun id
  | .abandon _ known _ _ => known = some id → world.ownSending thread.number id = []
  | _ => True

/-- What passes the gate may be sent. -/
theorem carries_of_gate {world : World} (h : world.core.Inv) {rule : GateRule} {message : Passed}
    (hneeds : Needs thread (.gate rule message) world)
    (hheeds : Heeds message.sessionId thread (.gate rule message) world) {session : Session}
    (hsession : world.store.session message.sessionId = some session)
    (hallows : rule.allows session.state = true) :
    world.Carries message.sessionId thread.number := by
  rw [h.session_eq] at hsession
  have hdocumented := h.documented session (List.mem_of_getElem? hsession)
  -- Nothing hands a session off before its third stage.
  have early : session.state.stage < 3 → session.handoffReason ≠ some .openingFailed := by
    intro hstage
    rw [hdocumented.early hstage]
    intro hreason
    cases hreason
  refine ⟨session, hsession, ?_⟩
  cases rule with
  | live =>
    -- A notice goes out after a claim; anything else, while the session is opened.
    rcases hneeds with hnotice | ⟨hopened, opening, hopening, hstate⟩
    · obtain ⟨row, hrow, hcarries⟩ := (hheeds rfl hnotice).carries h thread.number
      rw [hsession, Option.some.injEq] at hrow
      subst hrow
      exact hcarries
    · rw [show world.core.sessions[message.sessionId]? = _ from hsession, Option.some.injEq]
        at hopening
      subst hopening
      refine ⟨early ?_, fun _ => hopened⟩
      rcases hstate with hopen | hterminal
      · rw [hopen]
        decide
      · rw [GateRule.allows, hterminal] at hallows
        exact absurd hallows (by decide)
  | mediating =>
    obtain ⟨row, hrow, hstage⟩ := hheeds rfl
    rw [hsession, Option.some.injEq] at hrow
    subst hrow
    refine ⟨early ((SessionState.isMediating_iff_stage _).mp hallows), fun hstate => ?_⟩
    rw [hstate] at hstage
    exact absurd hstage (by decide)
  | closed =>
    obtain ⟨-, found, hfound, -, hreason⟩ := hneeds
    -- A closed session was closed by the resolution, not by a failed opening.
    have hclosed : session.state = .closed := by simpa [GateRule.allows] using hallows
    rw [show world.core.sessions[message.sessionId]? = _ from hsession, Option.some.injEq] at hfound
    subst hfound
    rw [hreason hclosed, hclosed]
    constructor
    · intro hfailed
      cases hfailed
    · intro hstate
      cases hstate

/-- A call that claims no session, or another one, leaves what is being sent. -/
theorem carried_of_claims {world later : World} (h : world.core.Inv) (h' : later.core.Inv)
    (hfollows : world.Follows later) (hunbroken : world.Unbroken id)
    (hsending : ∀ entry ∈ later.sending, entry ∈ world.sending)
    (hclaims : ∀ claim ∈ later.claims, claim.1 = id → claim ∈ world.claims) :
    ∀ entry ∈ later.sending, entry.2.sessionId = id → later.Carries id entry.1 :=
  fun entry hentry hid => (hunbroken.carried entry (hsending entry hentry) hid).mono h h' hfollows
    hclaims

/-- A hand-off claims the session, or changes nothing. -/
theorem handOff_cases (deployment : Deployment) (thread : Thread Task) (session : Session)
    (reason : HandoffReason) (now : Int) (oracle : Oracle) (world : World) :
    (∀ pending, (performCall deployment thread (.handOff session reason now) oracle world).1 ≠
        .ok (some pending)) ∧
      (performCall deployment thread (.handOff session reason now) oracle world).2 = world ∨
    ∃ pending store, oracle.fails = none ∧
      world.store.claimHandOff deployment.observers session reason now = some (pending, store) ∧
        (performCall deployment thread (.handOff session reason now) oracle world).2 =
          { world with
            store := store
            claims := world.claims ++ [(session.sessionId, .handOff reason
              (Store.newestMessageId (world.store.listMessages session.sessionId)))] } := by
  simp only [performCall, World.orFail]
  split
  · refine Or.inl ⟨fun pending hpending => ?_, rfl⟩
    cases hpending
  · next hfails =>
    split
    · refine Or.inl ⟨fun pending hpending => ?_, rfl⟩
      cases hpending
    · next pending store hclaim => exact Or.inr ⟨pending, store, hfails, hclaim, rfl⟩

/-- A session claimed for a hand-off, where its chat is kept, may hear of it. -/
theorem handedOver_of_handOff (deployment : Deployment) {session : Session}
    {reason : HandoffReason} {now pending : Int} {store : Store} {oracle : Oracle} {world : World}
    (hfails : oracle.fails = none)
    (hclaim : world.store.claimHandOff deployment.observers session reason now =
      some (pending, store))
    (hcond : (chatKept session.sessionId).call thread (.handOff session reason now) oracle world =
      true) :
    World.HandedOver { world with
      store := store
      claims := world.claims ++ [(session.sessionId, .handOff reason
        (Store.newestMessageId (world.store.listMessages session.sessionId)))] }
      session.sessionId := by
  have hclaimed := (Stepped.claimHandOff_spec hclaim).1
  refine ⟨reason, ?_, _, List.mem_append_right _ List.mem_cons_self⟩
  rintro rfl
  simp [chatKept, hfails, hclaimed] at hcond

/-- A hand-off for another reason is one that the parties may hear of. -/
theorem carries_of_handOff {session : Session} {reason : HandoffReason} {now : Int}
    {oracle : Oracle} {world : World} {number : Nat} (h : world.core.Inv)
    (h' : (performCall deployment thread (.handOff session reason now) oracle world).2.core.Inv)
    (hfollows : world.Follows
      (performCall deployment thread (.handOff session reason now) oracle world).2)
    (hcarries : world.Carries id number)
    (hcond : (chatKept id).call thread (.handOff session reason now) oracle world = true) :
    (performCall deployment thread (.handOff session reason now) oracle world).2.Carries id
      number := by
  rcases handOff_cases deployment thread session reason now oracle world with
    ⟨-, hsame⟩ | ⟨pending, store, hfails, hclaim, hlater⟩
  · rw [hsame]
    exact hcarries
  rw [hlater] at h' hfollows ⊢
  by_cases hid : session.sessionId = id
  · subst hid
    exact ((handedOver_of_handOff deployment hfails hclaim hcond).heard h').carries h' number
  · refine hcarries.mono h h' hfollows fun claim hmem hclaimed => ?_
    rcases List.mem_append.mp hmem with hold | hnew
    · exact hold
    · rw [List.mem_singleton.mp hnew] at hclaimed
      exact absurd hclaimed hid

/-- A thread that abandons an opening sends nothing for it, and neither does another. -/
theorem claims_of_abandon {dispute : DisputeId} {known : Option SessionId} {reason : String}
    {now : Int} {oracle : Oracle} {world : World} {number : Nat} (h : world.core.Inv)
    (hneeds : Needs thread (.abandon dispute known reason now) world)
    (hcarries : world.Carries id number) (hidle : known = some id → number ≠ thread.number) :
    ∀ claim ∈ (performCall deployment thread (.abandon dispute known reason now) oracle
      world).2.claims, claim.1 = id → claim ∈ world.claims := by
  intro claim hclaim hid
  simp only [performCall] at hclaim
  split at hclaim
  · cases known with
    | none => exact hclaim
    | some known =>
      simp only [Option.elim_some, World.stray] at hclaim
      split at hclaim <;> exact hclaim
  · cases known with
    | none => exact hclaim
    | some known =>
      simp only [World.abandon] at hclaim
      split at hclaim
      · next hclaimed =>
        rcases List.mem_append.mp hclaim with hold | hnew
        · exact hold
        · rw [List.mem_singleton.mp hnew] at hid
          subst hid
          obtain ⟨hopened, opening, hopening, hstate⟩ := hneeds known rfl
          obtain ⟨row, hrow, hmediating⟩ :=
            (h.any_eq_true_iff known SessionState.isMediating).mp hclaimed
          obtain ⟨session, hsession, -, hown⟩ := hcarries
          rw [hrow, Option.some.injEq] at hopening hsession
          subst hopening hsession
          -- An opening session is this thread's own, which has no such message under way.
          rcases hstate with hopen | hterminal
          · have hmine := hown hopen
            rw [show world.core.openedBy[known]? = _ from hopened, Option.some.injEq] at hmine
            exact absurd hmine.symm (hidle rfl)
          · have hlow := (SessionState.isMediating_iff_stage _).mp hmediating
            -- A terminal session is no longer mediated, so it was not claimed.
            rw [(SessionState.isTerminal_iff_stage _).mp hterminal] at hlow
            omega
      · exact hclaim

/-- **A call** that heeds what was read keeps what is being sent. -/
theorem unbroken_performCall {β : Type} {call : Call β} {oracle : Oracle} {world : World}
    (h : world.core.Inv) (hunbroken : world.Unbroken id) (hneeds : Needs thread call world)
    (hheeds : Heeds id thread call world)
    (hcond : (chatKept id).call thread call oracle world = true) :
    (performCall deployment thread call oracle world).2.Unbroken id := by
  have hstepped := performCall_stepped deployment thread call oracle h hneeds
  obtain ⟨hinv, hfollows, -⟩ := hstepped
  refine ⟨fun look hlook session hsession => ?_, ?_⟩
  -- What was seen earlier still holds of rows that only move forward.
  · rcases performCall_looks_cases deployment thread call oracle world with hsame | hadded
    · rw [hsame] at hlook
      exact (hunbroken.past look hlook session hsession).mono hfollows
    · rw [hadded] at hlook
      rcases List.mem_append.mp hlook with hold | hnew
      · exact (hunbroken.past look hold session hsession).mono hfollows
      · rw [List.mem_singleton.mp hnew] at hsession
        exact (World.shows_of_mem h hsession).mono hfollows
  have claimless : call.isClaim = false → ∀ claim ∈ (performCall deployment thread call oracle
      world).2.claims, claim.1 = id → claim ∈ world.claims := by
    intro hclaim claim hmem _
    rwa [performCall_claims deployment thread call hclaim] at hmem
  -- Only the gate adds a message under way.
  by_cases hgate : call.isGate = true
  · cases call with
    | gate rule message =>
      rcases gate_cases deployment thread rule message oracle world with
        hsame | ⟨⟨session, hsession, hallows⟩, hpassed⟩
      · rw [hsame]
        exact hunbroken.carried
      · intro entry hentry hid
        have hcarries : world.Carries id entry.1 := by
          rw [hpassed] at hentry
          rcases List.mem_append.mp hentry with hold | hnew
          · exact hunbroken.carried entry hold hid
          · rw [List.mem_singleton.mp hnew] at hid ⊢
            subst hid
            exact carries_of_gate h hneeds hheeds hsession hallows
        exact hcarries.mono h hinv hfollows (claimless rfl)
    | _ => cases hgate
  have hsending : ∀ entry ∈ (performCall deployment thread call oracle world).2.sending,
      entry ∈ world.sending := by
    intro entry hentry
    rcases performCall_sending deployment thread call (by simpa using hgate) oracle world with
      hsame | ⟨message, herased⟩
    · rwa [hsame] at hentry
    · rw [herased] at hentry
      exact List.mem_of_mem_erase hentry
  -- Only two calls claim a session; both find its messages under way carried.
  by_cases hclaim : call.isClaim = true
  · cases call with
    | handOff session reason now =>
      exact fun entry hentry hid => carries_of_handOff h hinv hfollows
        (hunbroken.carried entry (hsending entry hentry) hid) hcond
    | abandon dispute known reason now =>
      intro entry hentry hid
      refine (hunbroken.carried entry (hsending entry hentry) hid).mono h hinv hfollows ?_
      exact claims_of_abandon h hneeds (hunbroken.carried entry (hsending entry hentry) hid)
        fun hknown hthread => by
          have hmine : entry ∈ world.ownSending thread.number id :=
            List.mem_filter.mpr ⟨hsending entry hentry, by simp [hthread, hid]⟩
          rw [show world.ownSending thread.number id = [] from hheeds hknown] at hmine
          cases hmine
    | _ => cases hclaim
  · exact carried_of_claims h hinv hfollows hunbroken hsending (claimless (by simpa using hclaim))

/-- Only calls claim sessions. -/
theorem launch_claims {world later : World} (h : launch thread world = some later) :
    later.claims = world.claims := by
  unfold launch at h
  split at h
  all_goals
    first
      | (split at h <;> cases h; rfl)
      | (cases h; rfl)

@[inherit_doc launch_claims]
theorem happen_claims {happening : Happening} {world later : World}
    (h : happen deployment happening world = some later) : later.claims = world.claims := by
  cases happens_of_happen h with
  | _ => rfl

/-- A step that sends nothing, reads nothing and claims nothing. -/
theorem World.Unbroken.steady {world later : World} (h : world.Unbroken id)
    (hinv : world.core.Inv) (hinv' : later.core.Inv) (hfollows : world.Follows later)
    (hlooks : later.looks = world.looks) (hsending : later.sending = world.sending)
    (hclaims : later.claims = world.claims) : later.Unbroken id where
  past look hlook session hsession :=
    (h.past look (hlooks ▸ hlook) session hsession).mono hfollows
  carried := carried_of_claims hinv hinv' hfollows h (fun _ hentry => hsending ▸ hentry)
    fun _ hclaim _ => hclaims ▸ hclaim

/-- What holds of the session besides the contract. -/
def unreachedExtension (deployment : Deployment) (id : SessionId) :
    Extension (contract deployment (chatKept id)) where
  inv := World.Unbroken id
  pre thread call world := Heeds id thread call world
  rely thread before after :=
    after.ownSending thread.number id = before.ownSending thread.number id
  rely_refl _ _ := rfl
  rely_trans _ _ h h' := h'.trans h
  call_inv hinv h hneeds hheeds hcond := unbroken_performCall hinv h hneeds hheeds hcond
  call_rely _ _ _ _ _ hother := ownSending_performCall deployment _ _ _ hother
  launch_inv {thread oracle world world'} hinv h _ hlaunch := by
    obtain ⟨hinv', hfollows, -⟩ := launch_stepped hinv hlaunch
    exact h.steady hinv hinv' hfollows (launch_looks hlaunch)
      (congrArg Traces.sending (launch_quiet hlaunch).traces) (launch_claims hlaunch)
  launch_rely _ _ _ hlaunch :=
    ownSending_congr (congrArg Traces.sending (launch_quiet hlaunch).traces)
  happen_inv hinv h _ hhappen := by
    obtain ⟨hinv', hfollows, -⟩ := happen_stepped hinv hhappen
    exact h.steady hinv hinv' hfollows (happen_looks hhappen)
      (congrArg Traces.sending (happen_quiet hhappen).traces) (happen_claims hhappen)
  happen_rely _ _ _ hhappen :=
    ownSending_congr (congrArg Traces.sending (happen_quiet hhappen).traces)
  restart_inv hinv h _ := by
    refine ⟨fun look hlook session hsession => ?_, nofun⟩
    exact (h.past look hlook session hsession).mono (restart_follows hinv).2

/-! ## What the programs may do -/

/-- The call gives up no opening, and a message passes the gate of a live session, or of one that
Serbero mediates, where it may. -/
def passes (live mediating : Passed → Prop) {β : Type} (call : Call β) : Prop :=
  match call with
  | .gate .live message => live message
  | .gate .mediating message => mediating message
  | .abandon _ _ _ _ => False
  | _ => True

/-- It is no hand-off notice. -/
def Passed.plain (message : Passed) : Prop := message.template ≠ .handoffNotice

/-- The message is of the session. -/
def Passed.isOf (id : SessionId) (message : Passed) : Prop := message.sessionId = id

/-- Briefs and the queries behind them pass no gate. -/
theorem briefs_passes (deployment : Deployment) (live mediating : Passed → Prop) :
    AllowsBriefs deployment (passes live mediating) where
  query {_ call} hquery := by
    cases call <;> trivial
  briefs {_ call} hbriefs := by
    rcases hbriefs with ⟨dispute, notification, -, htells⟩ | hbriefs
    · cases call <;> trivial
    · cases call <;> trivial

/-- A message that passes under either rule may be sent. -/
theorem send_passes {live mediating : Passed → Prop} {about : SessionId} {party : Party}
    {template : Template} (hlive : live ⟨about, party, template⟩)
    (hmediating : mediating ⟨about, party, template⟩) :
    MaySend deployment (passes live mediating) about party template := by
  intro β call hsends
  cases call with
  | gate rule message =>
    rw [show message = _ from hsends]
    cases rule with
    | live => exact hlive
    | mediating => exact hmediating
    | closed => trivial
  | abandon dispute known reason now => exact hsends.elim
  | _ => trivial

/-- What the solvers are told passes no gate. -/
theorem tell_passes {live mediating : Passed → Prop} (dispute : DisputeId)
    (notification : String) : MayTell (passes live mediating) dispute notification := by
  intro β call htells
  cases call <;> trivial

/-- A closing sends its thanks outside the gate of live sessions. -/
theorem close_passes {live mediating : Passed → Prop} :
    MayFinish deployment (passes live mediating) where
  lock := trivial
  unlock := trivial
  closeChat _ := trivial
  thank about party {_ call} hsends hunder := by
    cases call with
    | gate rule message =>
      rw [show rule = .closed from hunder]
      trivial
    | abandon dispute known reason now => exact hsends.elim
    | _ => trivial
  report _ := tell_passes _ _
  finished _ _ _ _ := trivial

/-- An opening is given up outside the gate. -/
theorem giveUp_passes {live mediating : Passed → Prop} (dispute : DisputeId) :
    MayGiveUp (passes live mediating) dispute :=
  ⟨tell_passes _ _, fun _ => trivial⟩

/-- What passes without any knowledge of the session. -/
theorem suffices_plain (fact : World → Prop) :
    Suffices (unreachedExtension deployment id) thread (passes Passed.plain fun _ => False)
      fact := by
  intro β call world hcall _ _
  cases call with
  | gate rule message =>
    cases rule with
    | live => exact fun _ hnotice => absurd hnotice hcall
    | mediating => exact hcall.elim
    | closed => trivial
  | abandon dispute known reason now => exact hcall.elim
  | _ => trivial

/-- What passes once the session's opening ended. -/
theorem suffices_begun {about : SessionId} {fact : World → Prop}
    (hbegun : ∀ world, (unreachedExtension deployment id).news.inv world → fact world →
      about = id → world.Begun id) :
    Suffices (unreachedExtension deployment id) thread
      (passes Passed.plain (Passed.isOf about)) fact := by
  intro β call world hcall hinv hfact
  cases call with
  | gate rule message =>
    cases rule with
    | live => exact fun _ hnotice => absurd hnotice hcall
    | mediating =>
      intro hid
      exact hbegun world hinv hfact (hid ▸ (show message.sessionId = about from hcall).symm)
    | closed => trivial
  | abandon dispute known reason now => exact hcall.elim
  | _ => trivial

/-- What passes once the parties may hear of the session's hand-off. -/
theorem suffices_heard {about : SessionId} {fact : World → Prop}
    (hheard : ∀ world, (unreachedExtension deployment id).news.inv world → fact world →
      about = id → world.Heard id) :
    Suffices (unreachedExtension deployment id) thread
      (passes (Passed.isOf about) (Passed.isOf about)) fact := by
  intro β call world hcall hinv hfact
  cases call with
  | gate rule message =>
    cases rule with
    | live =>
      intro hid _
      exact hheard world hinv hfact (hid ▸ (show message.sessionId = about from hcall).symm)
    | mediating =>
      intro hid
      exact (hheard world hinv hfact
        (hid ▸ (show message.sessionId = about from hcall).symm)).begun hinv.1
    | closed => trivial
  | abandon dispute known reason now => exact hcall.elim
  | _ => trivial

/-! ## Hand-offs -/

/-- The program sends no message of the session that it may not, and gives up no opening while it
sends. -/
abbrev Discreet (deployment : Deployment) (id : SessionId) (thread : Thread Task) {α : Type}
    (program : Daemon α) : Prop :=
  (unreachedExtension deployment id).news.Keeps thread (fun _ => True) program

/-- Nothing at all is known for good. -/
theorem discreet_true : (unreachedExtension deployment id).news.Lasting thread anyCall fun _ => True :=
  .true

/-- A program that returns is discreet. -/
theorem discreet_done {α : Type} (value : α) : Discreet deployment id thread (.done value) :=
  .done discreet_true value

/-- A program whose messages are plain needs to know nothing. -/
theorem discreet_of_makes {α : Type} {program : Daemon α}
    (h : Says deployment thread (passes Passed.plain fun _ => False) program) :
    Discreet deployment id thread program :=
  keeps_of_says .true (fun hcall hinv hfact => suffices_plain (fun _ => True) hcall hinv hfact) h

/-- A claim is never forgotten. -/
theorem performCall_claimed (deployment : Deployment) {β : Type} (thread : Thread Task)
    (call : Call β) (oracle : Oracle) (world : World) :
    world.claims <+: (performCall deployment thread call oracle world).2.claims := by
  rcases performCall_claims_cases deployment thread call oracle world with hsame | ⟨added, hadded, -⟩
  · exact hsame ▸ List.prefix_rfl
  · exact hadded ▸ List.prefix_append _ _

/-- That a session was claimed for its parties to hear is not forgotten. -/
theorem lasting_handedOver (about : SessionId) :
    (unreachedExtension deployment id).news.Lasting thread anyCall
      fun world => about = id → world.HandedOver about where
  rely h hrely habout := by
    obtain ⟨reason, hother, last, hmem⟩ := h habout
    exact ⟨reason, hother, last, hrely.1.follows.core.claims.subset hmem⟩
  call _ _ _ _ h habout := by
    obtain ⟨reason, hother, last, hmem⟩ := h habout
    exact ⟨reason, hother, last, (performCall_claimed deployment _ _ _ _).subset hmem⟩

/-- The claim comes first, and with it the reason. -/
theorem claimed_spec (session : Session) (reason : HandoffReason) (now : Int) :
    (unreachedExtension deployment id).news.Triple thread (fun _ => True)
      (perform (.handOff session reason now)) fun result world => ∀ pending,
        result = .ok (some pending) → session.sessionId = id →
          world.HandedOver session.sessionId := by
  refine .perform (fun _ _ => trivial) (fun _ _ _ => trivial) ?_
  intro world oracle later _ _ hcond hrely _ pending hresult
  have hover : (unreachedExtension deployment id).news.Lasting thread anyCall
      fun world => session.sessionId = id → world.HandedOver session.sessionId :=
    lasting_handedOver _
  refine hover.rely ?_ hrely
  intro habout
  rcases handOff_cases deployment thread session reason now oracle world with
    ⟨hnone, -⟩ | ⟨other, store, hfails, hclaim, hlater⟩
  · exact absurd hresult (hnone pending)
  · subst habout
    change (performCall deployment thread (.handOff session reason now) oracle world).2.HandedOver _
    rw [hlater]
    exact handedOver_of_handOff deployment hfails hclaim hcond

/-- **A hand-off** tells the parties only where it claimed the session. -/
theorem handOff_discreet (session : Session) (reason : HandoffReason)
    (reading : Option TurnReading) (now : Int) :
    Discreet deployment id thread (handOff deployment session reason reading now) := by
  refine Spec.Triple.bind _ (claimed_spec session reason now) (fun claimed => ?_)
    fun _ _ _ _ => trivial
  cases claimed with
  -- Somebody else has claimed the session: nothing is sent.
  | none => exact (discreet_done false).consequence (fun _ _ _ => trivial) fun _ _ _ _ => trivial
  | some pending =>
    let fact := fun world : World => session.sessionId = id → world.HandedOver session.sessionId
    have hfact : (unreachedExtension deployment id).news.Lasting thread anyCall fact :=
      lasting_handedOver _
    have hsuffices : Suffices (unreachedExtension deployment id) thread
        (passes (Passed.isOf session.sessionId) (Passed.isOf session.sessionId)) fact :=
      suffices_heard fun world hinv hover habout => habout ▸ (hover habout).heard hinv.1
    have hbriefs := briefs_passes deployment (Passed.isOf session.sessionId)
      (Passed.isOf session.sessionId)
    have hnotice : MayHandOver deployment (passes (Passed.isOf session.sessionId)
        (Passed.isOf session.sessionId)) session.sessionId := by
      intro party
      apply send_passes
      · rfl
      · rfl
    have hmakes : ∀ {α : Type} {program : Daemon α}, Says deployment thread
        (passes (Passed.isOf session.sessionId) (Passed.isOf session.sessionId)) program →
          (unreachedExtension deployment id).news.Keeps thread fact program := fun hmakes =>
      keeps_of_says (hfact.of_imp fun _ => trivial)
        (fun hcall hinv hover => hsuffices hcall hinv hover) hmakes
    have htold : (unreachedExtension deployment id).news.Keeps thread fact
        ((forEach (tellHandoff deployment session) Party.both).bind fun _ =>
          (.done true : Daemon Bool)) :=
      .bind (.forEach hfact fun party _ => hmakes (says_tellHandoff hbriefs.reports hnotice party))
        fun _ => .done hfact true
    -- The notices go out after the brief, whether the brief was delivered or not.
    have hrest : (unreachedExtension deployment id).news.Keeps thread fact (do
        let delivered ← briefSolvers deployment session (.handoff reason) reading now
        if 0 < delivered then
          briefDelivered session pending now
          forEach (tellHandoff deployment session) Party.both
          return true
        else
          forEach (tellHandoff deployment session) Party.both
          return true) := by
      refine .bind (hmakes (says_briefSolvers hbriefs session _ reading now)) fun delivered => ?_
      split
      · exact .bind (hmakes (says_briefDelivered hbriefs.reports session pending now)) fun _ => htold
      · exact htold
    exact hrest.consequence (fun _ _ hclaimed => hclaimed pending rfl) fun _ _ _ _ => trivial

/-! ## Sending while Serbero mediates -/

/-- The store has the session, and its opening ended. -/
def Store.HasBegun (store : Store) (about : SessionId) : Prop :=
  ∃ row ∈ store.sessions, row.sessionId = about ∧ 1 ≤ row.state.stage

/-- What was once past its opening is. -/
theorem begun_of_saw {world : World} {number : Nat} {about : SessionId}
    (h : world.Unbroken id) (hsaw : world.Saw number fun store => store.HasBegun about) :
    world.Begun about := by
  obtain ⟨look, hlook, -, row, hrow, rfl, hstage⟩ := hsaw
  exact (h.past look hlook row hrow).begun hstage

section

variable {about : SessionId} {fact : World → Prop}

/-- A task that saw the session past its opening may write to it. -/
theorem suffices_of_begun
    (hbegun : ∀ world, fact world → world.Saw thread.number fun store => store.HasBegun about) :
    Suffices (unreachedExtension deployment id) thread
      (passes Passed.plain (Passed.isOf about)) fact := by
  apply suffices_begun
  exact fun world hinv hknown habout => habout ▸ begun_of_saw hinv.2 (hbegun world hknown)

/-- What a task says of a session that it saw past its opening. -/
theorem keeps_begun (hfact : (unreachedExtension deployment id).news.Lasting thread anyCall fact)
    (hbegun : ∀ world, fact world → world.Saw thread.number fun store => store.HasBegun about)
    {α : Type} {program : Daemon α}
    (h : Says deployment thread (passes Passed.plain (Passed.isOf about)) program) :
    (unreachedExtension deployment id).news.Keeps thread fact program := by
  exact keeps_of_says (hfact.of_imp fun _ => trivial)
    (fun hcall hinv hknown => suffices_of_begun hbegun hcall hinv hknown) h

/-- A message of that session that is no hand-off notice. -/
theorem send_begun {party : Party} {template : Template} (hplain : template ≠ .handoffNotice) :
    MaySend deployment (passes Passed.plain (Passed.isOf about)) about party template := by
  apply send_passes
  · exact hplain
  · rfl

/-- Its guides among them. -/
theorem guide_begun :
    MayGuide deployment (passes Passed.plain (Passed.isOf about)) about := by
  intro path entry hentry
  refine send_begun fun hnotice => ?_
  cases path <;> simp only [guides, List.mem_cons, List.not_mem_nil, or_false] at hentry <;>
    rcases hentry with rfl | rfl <;> cases hnotice

/-- What lasts is known beside a program that is discreet. -/
theorem keeps_beside_discreet
    (hfact : (unreachedExtension deployment id).news.Lasting thread anyCall fact) {α : Type}
    {program : Daemon α} (h : Discreet deployment id thread program) :
    (unreachedExtension deployment id).news.Keeps thread fact program :=
  (Spec.Triple.frame hfact (.any program) h).consequence (fun _ _ hknown => ⟨trivial, hknown⟩)
    fun _ _ _ hknown => hknown.2

/-- A turn acts on a session that it saw past its opening. -/
theorem act_discreet {session : Session} (reading : TurnReading) {turn : Turn}
    (hasked : ∀ party, ∀ template ∈ turn.next.templates party, template.isAsked = true)
    (now : Int)
    (hfact : (unreachedExtension deployment id).news.Lasting thread anyCall fact)
    (hbegun : ∀ world, fact world → world.Saw thread.number fun store =>
      store.HasBegun session.sessionId) :
    (unreachedExtension deployment id).news.Keeps thread fact
      (act deployment session reading turn.next now turn.decide) := by
  have hbriefs := briefs_passes deployment Passed.plain (Passed.isOf session.sessionId)
  have hmakes : ∀ {α : Type} {program : Daemon α},
      Says deployment thread (passes Passed.plain (Passed.isOf session.sessionId)) program →
        (unreachedExtension deployment id).news.Keeps thread fact program :=
    fun h => keeps_begun hfact hbegun h
  have hexplains := turn.explains_decide
  cases haction : turn.decide with
  | ask buyer seller =>
    rw [haction] at hexplains
    obtain ⟨rfl, rfl⟩ := hexplains
    refine hmakes (.bind (.foldEach (fun firstInTurn party _ => ?_) true) fun _ _ => trivial)
    refine says_askParty hbriefs.reports (fun other template hask => send_begun ?_)
      -- A notice is no question, so what is asked is never one.
      (fun _ _ _ => trivial) _ (fun other template htemplate => ?_) now firstInTurn party
    · rintro rfl
      cases hask
    · cases other with
      | buyer => exact hasked .buyer template htemplate
      | seller => exact hasked .seller template htemplate
  | handoff reason =>
    -- A hand-off speaks for itself: it claims before it sends.
    have hclaims : Discreet deployment id thread
        (handOff deployment session reason (some reading) now) :=
      handOff_discreet session reason (some reading) now
    exact .bind (keeps_beside_discreet hfact hclaims) fun _ => .done hfact ()
  | guide path => exact hmakes (says_guide hbriefs guide_begun reading trivial)
  | hold =>
    exact hmakes (.bind (says_query hbriefs.reports rfl) fun started _ =>
      says_hold hbriefs.reports (by intro party; apply send_begun; decide) trivial)
  | wait => exact .done hfact ()

end

/-! ## Turns -/

/-- The sessions that were guided are past their opening. -/
def Store.GuidesBegun (store : Store) : Prop :=
  ∀ event ∈ store.events, event.kind.isGuided = true → ∀ about, event.sessionId = some about →
    store.HasBegun about

/-- A guided session is at the stage of its path. -/
theorem guidesBegun_of_inv {world : World} (h : world.core.Inv) : world.store.GuidesBegun := by
  intro event hevent hguided about habout
  have hmark : event ∈ world.store.marks :=
    List.mem_filter.mpr ⟨hevent, isMark_of_isGuided event.kind hguided⟩
  obtain ⟨row, hrow⟩ : ∃ row, world.core.sessions[about]? = some row :=
    ⟨_, List.getElem?_eq_getElem (h.marksKnown event hmark about habout)⟩
  refine ⟨row, List.mem_of_getElem? hrow, h.numbered about row hrow, ?_⟩
  by_contra hearly
  have hnone := (h.documented row (List.mem_of_getElem? hrow)).notGuided (by omega)
  rw [h.numbered about row hrow, countMarks, List.countP_eq_zero] at hnone
  exact hnone event hmark (by simp [habout, hguided])

/-- A path that a session was guided on is on record. -/
theorem exists_of_guidedPath {session : Session} {events : List Event} {path : Path}
    (h : guidedPath session events = some path) : ∃ event ∈ events,
      event.kind.isGuided = true ∧ event.sessionId = some session.sessionId := by
  unfold guidedPath at h
  obtain ⟨event, hfound, -⟩ := Option.bind_eq_some_iff.mp h
  have hpicked := List.find?_some hfound
  rw [Bool.and_eq_true, beq_iff_eq] at hpicked
  refine ⟨event, List.mem_reverse.mp (List.mem_of_find?_eq_some hfound), ?_, hpicked.1⟩
  obtain ⟨-, hkind⟩ := hpicked
  cases hcase : event.kind <;> rw [hcase] at hkind <;> first | rfl | cases hkind

/-- The guidance is sent again where the session is seen to be guided. -/
theorem resendGuides_discreet (session : Session) :
    Discreet deployment id thread (resendGuides deployment session) := by
  have hread : (unreachedExtension deployment id).news.Learns thread (fun _ => True)
      (perform (.read fun store => guidedPath session (store.listEvents session.disputeId)))
      fun path world => world.Saw thread.number fun store => store.GuidesBegun ∧
        guidedPath session (store.listEvents session.disputeId) = path :=
    learns_of_saw Store.GuidesBegun (fun _ _ => rfl) discreet_true trivial (fun _ _ _ => trivial)
      fun _ hinv _ => guidesBegun_of_inv hinv.1
  refine Spec.Triple.bind _ hread (fun path => ?_) fun _ _ _ _ => trivial
  cases path with
  | none => exact (discreet_done 0).consequence (fun _ _ _ => trivial) fun _ _ _ _ => trivial
  | some path =>
    have hsaw : (unreachedExtension deployment id).news.Lasting thread anyCall fun world =>
        world.Saw thread.number fun store => store.GuidesBegun ∧
          guidedPath session (store.listEvents session.disputeId) = some path := lasting_saw _
    have hguides : (unreachedExtension deployment id).news.Keeps thread (fun world =>
        world.Saw thread.number fun store => store.GuidesBegun ∧
          guidedPath session (store.listEvents session.disputeId) = some path)
        (sendGuides deployment session path) := by
      refine keeps_begun hsaw (fun world hknown => hknown.imp fun store hstore => ?_)
        (says_sendGuides (briefs_passes deployment Passed.plain _).reports guide_begun path)
      obtain ⟨event, hevent, hguided, habout⟩ := exists_of_guidedPath hstore.2
      exact hstore.1 event (List.mem_filter.mp hevent).1 hguided _ habout
    exact hguides.consequence (fun _ _ hknown => hknown.2 (some path) rfl) fun _ _ _ _ => trivial

/-- A turn decides on a session that it saw past its opening. -/
theorem decideAndAct_discreet {fact : World → Prop} (session : Session) (messages : List Message)
    (phase : Phase) (state : JudgeState) (answers : Answers) (now : Int)
    (hfact : (unreachedExtension deployment id).news.Lasting thread anyCall fact)
    (hbegun : ∀ world, fact world → world.Saw thread.number fun store =>
      store.HasBegun session.sessionId) :
    (unreachedExtension deployment id).news.Keeps thread fact
      (decideAndAct deployment session messages phase state answers now) := by
  have hbriefs := briefs_passes deployment Passed.plain (Passed.isOf session.sessionId)
  have hmakes : ∀ {α : Type} {program : Daemon α},
      Says deployment thread (passes Passed.plain (Passed.isOf session.sessionId)) program →
        (unreachedExtension deployment id).news.Keeps thread fact program :=
    fun h => keeps_begun hfact hbegun h
  refine .bind (hmakes (says_updateLanguages (fun _ _ _ => trivial) _ now)) fun changed => ?_
  refine Spec.keeps_bind_of_makes (hfact.of_imp fun _ => trivial)
    (fun hcall hinv hknown => suffices_of_begun hbegun hcall hinv hknown)
    (makes_reload (hbriefs.query rfl)) fun current hcurrent => ?_
  rw [← hcurrent] at hbegun
  refine .bind (hmakes (says_query hbriefs.reports rfl)) fun events => ?_
  refine .bind (hmakes (.perform trivial fun _ _ => trivial)) fun _ => ?_
  exact .bind (act_discreet _ (isAsked_plan _ messages changed) now hfact hbegun) fun _ =>
    .done hfact _

/-- What a turn loads is stored. -/
theorem hasBegun_of_load {store : Store} {about : SessionId} {session : Session}
    {messages : List Message} {openedBy : Initiator} {phase : Phase}
    (h : store.load about = some (session, messages, openedBy))
    (hphase : phaseOf session.state = some phase) : store.HasBegun session.sessionId := by
  obtain ⟨found, hfound, hrest⟩ := Option.bind_eq_some_iff.mp h
  obtain ⟨dispute, -, heq⟩ := Option.map_eq_some_iff.mp hrest
  cases heq
  exact ⟨session, List.mem_of_find?_eq_some hfound, rfl, stage_of_phaseOf hphase⟩

/-- A turn. -/
theorem turn_discreet (deployment : Deployment) (id : SessionId) (thread : Thread Task)
    (about : SessionId) :
    TurnParts (unreachedExtension deployment id) thread (passes Passed.plain fun _ => False)
      (fun _ => True) (fun _ => True) about where
  lasting := .true
  enough := fun hcall hinv hfact => suffices_plain (fun _ => True) hcall hinv hfact
  briefs := briefs_passes deployment _ _
  strike _ _ _ _ _ := trivial
  load _ _ _ := trivial
  handOff session reason reading now _ _ := handOff_discreet session reason reading now
  guides session _ := resendGuides_discreet session
  decide session messages openedBy phase state answers now _ hphase := by
    have hsaw : (unreachedExtension deployment id).news.Lasting thread anyCall fun world =>
        world.Saw thread.number fun store =>
          True ∧ store.load about = some (session, messages, openedBy) := lasting_saw _
    have hdecide : (unreachedExtension deployment id).news.Keeps thread (fun world =>
        world.Saw thread.number fun store =>
          True ∧ store.load about = some (session, messages, openedBy))
        (decideAndAct deployment session messages phase state answers now) := by
      refine decideAndAct_discreet session messages phase state answers now hsaw ?_
      exact fun world hknown => hknown.imp fun store hstore => hasBegun_of_load hstore.2 hphase
    exact hdecide.consequence (fun _ _ hknown => hknown.2) fun _ _ _ _ => trivial
  join _ _ _ _ := trivial

/-! ## Passes of the timers -/

/-- What a pass listed is stored. -/
theorem mem_of_listLive {store : Store} {session : Session} (h : session ∈ store.listLive) :
    session ∈ store.sessions :=
  (List.mem_filter.mp ((List.mem_insertionSort _).mp h)).1

/-- The timers rest on a session that gathers or guides. -/
theorem tickSession_discreet (session : Session) (now : Int)
    (htimed : session.state = .active ∨ session.state = .guiding) :
    (unreachedExtension deployment id).news.Keeps thread
      (fun world => world.Saw thread.number fun store => True ∧ session ∈ store.listLive)
      (tickSession deployment session now) := by
  have hsaw : (unreachedExtension deployment id).news.Lasting thread anyCall fun world =>
      world.Saw thread.number fun store => True ∧ session ∈ store.listLive := lasting_saw _
  have hbriefs := briefs_passes deployment Passed.plain (Passed.isOf session.sessionId)
  have hmakes : ∀ {α : Type} {program : Daemon α},
      Says deployment thread (passes Passed.plain (Passed.isOf session.sessionId)) program →
        (unreachedExtension deployment id).news.Keeps thread (fun world =>
          world.Saw thread.number fun store => True ∧ session ∈ store.listLive) program := by
    intro α program h
    refine keeps_begun hsaw (fun world hknown => hknown.imp fun store hstore => ?_) h
    refine ⟨session, mem_of_listLive hstore.2, rfl, ?_⟩
    rcases htimed with hstate | hstate <;> rw [hstate] <;> decide
  refine .bind (hmakes (says_query hbriefs.reports rfl)) fun read => ?_
  obtain ⟨messages, history⟩ := read
  simp only []
  split
  · exact .done hsaw ()
  · refine hmakes (.forEach fun party _ => says_sendTemplate hbriefs.reports ?_)
    apply send_begun
    decide
  · next reason _ =>
    refine .bind (hmakes (says_lastReading hbriefs.reports session messages)) fun last => ?_
    have hclaims : Discreet deployment id thread
        (handOff deployment session reason last now) := handOff_discreet session reason last now
    exact .bind (keeps_beside_discreet hsaw hclaims) fun _ => .done hsaw ()

/-- What the retries send to the parties rests on the listed session. -/
theorem retryParties_discreet (session : Session) (messages : List Message) (held : Option Hold) :
    (unreachedExtension deployment id).news.Keeps thread
      (fun world => world.Saw thread.number fun store => True ∧ session ∈ store.listLive)
      (retryParties deployment session messages held) := by
  have hsaw : (unreachedExtension deployment id).news.Lasting thread anyCall fun world =>
      world.Saw thread.number fun store => True ∧ session ∈ store.listLive := lasting_saw _
  unfold retryParties
  split
  · next hstate =>
    split
    · exact .done hsaw ()
    · next hreason =>
      -- The session was handed off for another reason, and is.
      have hbriefs := briefs_passes deployment (Passed.isOf session.sessionId)
        (Passed.isOf session.sessionId)
      have hsuffices : Suffices (unreachedExtension deployment id) thread
          (passes (Passed.isOf session.sessionId) (Passed.isOf session.sessionId)) fun world =>
            world.Saw thread.number fun store => True ∧ session ∈ store.listLive := by
        apply suffices_heard
        rintro world hinv ⟨look, hlook, -, -, hmem⟩ habout
        exact habout ▸ (hinv.2.past look hlook session (mem_of_listLive hmem)).heard hstate hreason
      refine keeps_of_says (hsaw.of_imp fun _ => trivial)
        (fun hcall hinv hknown => hsuffices hcall hinv hknown) (.forEach fun party _ => ?_)
      unfold retryNotice
      split
      · exact trivial
      · refine .bind (says_attempt (says_sendTemplate hbriefs.reports ?_)) fun _ _ => trivial
        apply send_passes
        · rfl
        · rfl
  · exact .bind (keeps_beside_discreet hsaw (resendGuides_discreet session)) fun _ => .done hsaw ()
  · next hstate =>
    split
    · refine keeps_begun hsaw (fun world hknown => hknown.imp fun store hstore => ?_)
        (says_sendHoldNotices (briefs_passes deployment Passed.plain _).reports
          (by intro party; apply send_begun; decide) _)
      refine ⟨session, mem_of_listLive hstore.2, rfl, ?_⟩
      rw [hstate]
      decide
    · exact .done hsaw ()
  · exact .done hsaw ()

/-- A pass of the timers. -/
theorem pass_discreet (deployment : Deployment) (id : SessionId) (thread : Thread Task) :
    PassWalk (unreachedExtension deployment id) thread (passes Passed.plain fun _ => False)
      (fun _ => True) fun _ => True where
  lasting := .true
  enough := fun hcall hinv hfact => suffices_plain (fun _ => True) hcall hinv hfact
  briefs := briefs_passes deployment _ _
  openChat _ := trivial
  close := close_passes
  giveUp := giveUp_passes
  list _ _ _ := trivial
  time session now htimed := (tickSession_discreet session now htimed).consequence
    (fun _ _ hknown => hknown.2) fun _ _ _ _ => trivial
  unreachable session now := handOff_discreet session .openingFailed none now
  retry session now := by
    have hsaw : (unreachedExtension deployment id).news.Lasting thread anyCall fun world =>
        world.Saw thread.number fun store => True ∧ session ∈ store.listLive := lasting_saw _
    have hbriefs := briefs_passes deployment Passed.plain fun _ => False
    have hmakes : ∀ {α : Type} {program : Daemon α},
        Says deployment thread (passes Passed.plain fun _ => False) program →
          (unreachedExtension deployment id).news.Keeps thread (fun world =>
            world.Saw thread.number fun store => True ∧ session ∈ store.listLive) program :=
      fun h => keeps_beside_discreet hsaw (discreet_of_makes h)
    have hretry : (unreachedExtension deployment id).news.Keeps thread (fun world =>
        world.Saw thread.number fun store => True ∧ session ∈ store.listLive)
        (retryUndelivered deployment session now) := by
      -- The look decides what to send again; a handed-off session's notices need nothing more.
      refine .bind (hmakes (says_query hbriefs.reports rfl)) fun read => ?_
      obtain ⟨messages, history⟩ := read
      simp only []
      split
      · exact .done hsaw ()
      · exact .bind (.forEach hsaw fun brief _ =>
          hmakes (says_retryBrief hbriefs session messages now brief)) fun _ =>
            retryParties_discreet session messages _
    exact hretry.consequence (fun _ _ hknown => hknown.2) fun _ _ _ _ => trivial
  join _ _ _ := trivial

/-! ## Openings -/

/-- The thread sends nothing of the session. -/
def World.Unsent (id about : SessionId) (number : Nat) (world : World) : Prop :=
  about = id → world.ownSending number id = []

/-- While nothing passes the gate, a thread that sends nothing of the session sends nothing of it.
-/
theorem lasting_unsent (about : SessionId) :
    (unreachedExtension deployment id).news.Lasting thread (fun call => call.isGate = false)
      (World.Unsent id about thread.number) where
  rely h hrely habout := by
    rw [show World.ownSending _ thread.number id = _ from hrely.2]
    exact h habout
  call {β call oracle world} hcall _ _ _ h habout := by
    change (performCall deployment thread call oracle world).2.ownSending thread.number id = []
    have hnone := h habout
    unfold World.ownSending at hnone ⊢
    rcases performCall_sending deployment thread call hcall oracle world with
      hsame | ⟨message, herased⟩
    · rw [hsame]
      exact hnone
    · rw [herased, ← List.erase_filter, hnone]
      rfl

/-- An opener passes the gate, and is sent before the thread goes on. -/
theorem sendOpener_spec (session : Session) {message : Outbound}
    (hplain : message.template ≠ .handoffNotice) :
    (unreachedExtension deployment id).news.Keeps thread
      (World.Unsent id session.sessionId thread.number)
      (sendWhen .live session message) := by
  have hunsent : (unreachedExtension deployment id).news.Lasting thread
      (fun call => call.isGate = false) (World.Unsent id session.sessionId thread.number) :=
    lasting_unsent _
  let passed : Passed := ⟨session.sessionId, message.party, message.template⟩
  refine .bind (.perform hunsent rfl fun _ _ _ => trivial) fun createdAt => ?_
  -- Past the gate the opener is all that the thread sends of the session.
  have hgate : (unreachedExtension deployment id).news.Triple thread
      (World.Unsent id session.sessionId thread.number) (perform (.gate .live passed))
      fun result world => session.sessionId = id → world.ownSending thread.number id = [] ∨
        result = .ok () ∧ world.ownSending thread.number id = [(thread.number, passed)] := by
    refine .perform hunsent.rely (fun _ _ _ _ hnotice => absurd hnotice hplain) ?_
    intro world oracle later _ hnone _ hrely _ habout
    rw [show later.ownSending thread.number id = _ from hrely.2]
    have hbefore := hnone habout
    change (performCall deployment thread (.gate .live passed) oracle world).2.ownSending _ _ = [] ∨
      (performCall deployment thread (.gate .live passed) oracle world).1 = _ ∧
        (performCall deployment thread (.gate .live passed) oracle world).2.ownSending _ _ = _
    simp only [performCall, World.orFail, World.checkGate]
    split
    · exact Or.inl hbefore
    · split
      · refine Or.inr ⟨rfl, ?_⟩
        unfold World.ownSending at hbefore ⊢
        rw [List.filter_append, hbefore]
        simp [passed, habout]
      · exact Or.inl hbefore
  have hsend : (unreachedExtension deployment id).news.Triple thread
      (fun world => session.sessionId = id → world.ownSending thread.number id = [] ∨
        world.ownSending thread.number id = [(thread.number, passed)])
      (perform (.sendEvent passed)) fun _ => World.Unsent id session.sessionId thread.number := by
    refine .perform (fun h hrely habout => ?_) (fun _ _ _ => trivial) ?_
    · rw [show World.ownSending _ thread.number id = _ from hrely.2]
      exact h habout
    intro world oracle later _ hknown _ hrely _ habout
    rw [show later.ownSending thread.number id = _ from hrely.2]
    have herased : (performCall deployment thread (.sendEvent passed) oracle world).2.sending =
        world.sending.erase (thread.number, passed) := by
      simp only [performCall, World.sendEvent]
      split <;> rfl
    change (performCall deployment thread (.sendEvent passed) oracle world).2.ownSending _ _ = []
    rw [World.ownSending, herased, ← List.erase_filter]
    rcases hknown habout with hnone | hone
    · rw [show world.sending.filter _ = [] from hnone]
      rfl
    · rw [show world.sending.filter _ = [(thread.number, passed)] from hone]
      simp
  refine Spec.Triple.bind _ hgate (fun _ => ?_) fun _ _ _ hknown habout => ?_
  · refine Spec.Triple.bind _ (hsend.consequence (fun _ _ hknown habout => ?_)
      fun _ _ _ hknown => hknown) (fun _ => ?_) fun _ _ _ hknown => hknown
    · exact (hknown habout).imp_right And.right
    · exact Spec.Keeps.bind (.perform hunsent rfl fun _ _ _ => trivial) fun _ => .done hunsent ()
  · rcases hknown habout with hnone | ⟨hok, -⟩
    · exact hnone
    · cases hok

/-- Nothing of a session that was just inserted is being sent. -/
theorem insertSession_unsent (dispute : DisputeId) (info : SolverDisputeInfo) (order : OrderEvent)
    (now : Int) :
    (unreachedExtension deployment id).news.Learns thread (fun _ => True)
      (perform (.insertSession dispute info order now)) fun session world =>
        World.Unsent id session.sessionId thread.number world := by
  refine .perform (fun _ _ => trivial) (fun _ _ _ => trivial) ?_
  intro world oracle later hinv _ _ hrely _
  refine ⟨trivial, fun session hresult habout => ?_⟩
  rw [show later.ownSending thread.number id = _ from hrely.2]
  change (performCall deployment thread (.insertSession dispute info order now) oracle world).1 = _
    at hresult
  change (performCall deployment thread (.insertSession dispute info order now) oracle
    world).2.ownSending thread.number id = []
  have hnew : session.sessionId = world.store.sessions.length := by
    simp only [performCall, World.orFail, World.openSession] at hresult
    repeat' split at hresult
    all_goals cases hresult
    rfl
  have hsending : (performCall deployment thread (.insertSession dispute info order now) oracle
      world).2.sending = world.sending := by
    have hmail := performCall_mail deployment thread (.insertSession dispute info order now) rfl
      oracle world
    exact hmail.2.1
  rw [ownSending_congr hsending, World.ownSending, List.filter_eq_nil_iff]
  intro entry hentry hmine
  rw [Bool.and_eq_true, beq_iff_eq, beq_iff_eq] at hmine
  obtain ⟨row, hrow, -⟩ := hinv.2.carried entry hentry hmine.2
  have hlt := (List.getElem?_eq_some_iff.mp hrow).1
  rw [← habout, hnew] at hlt
  exact Nat.lt_irrefl _ hlt

/-- A session just created has nothing on its way. -/
theorem createSession_unsent (dispute : DisputeId) (info : SolverDisputeInfo) (now : Int) :
    (unreachedExtension deployment id).news.Learns thread (fun _ => True)
      (createSession dispute info now) fun session world =>
        World.Unsent id session.sessionId thread.number world := by
  have failed : ∀ (failure : String) (world : World), True ∧ ∀ session : Session,
      (Except.error failure : Except String Session) = .ok session →
        World.Unsent id session.sessionId thread.number world :=
    fun _ _ => ⟨trivial, fun _ hok => by cases hok⟩
  unfold createSession
  split
  · exact fun _ _ _ later _ _ => failed _ later
  · refine Spec.Triple.bind _ (discreet_of_makes (says_query
      (briefs_passes deployment Passed.plain fun _ => False).reports rfl)) (fun order => ?_)
      fun failure world _ _ => failed failure world
    refine Spec.Triple.bind _ (insertSession_unsent dispute info order now) (fun session => ?_)
      fun failure world _ _ => failed failure world
    have hunsent : (unreachedExtension deployment id).news.Lasting thread
        (fun call => call.isGate = false) (World.Unsent id session.sessionId thread.number) :=
      lasting_unsent _
    have hchat : (unreachedExtension deployment id).news.Keeps thread
        (World.Unsent id session.sessionId thread.number)
        (perform (.openChat session.sessionId)) := .perform hunsent rfl fun _ _ _ => trivial
    refine Spec.Triple.bind _ (hchat.consequence (fun _ _ hknown => hknown.2 session rfl)
      fun _ _ _ hknown => hknown) (fun _ => ?_) fun failure world _ _ => failed failure world
    intro world _ hknown later hrely _
    refine ⟨trivial, fun value hvalue => ?_⟩
    cases hvalue
    exact hunsent.rely hknown hrely

/-- An opening that failed is given up by a thread that sends nothing of it. -/
theorem abandon_discreet (dispute : DisputeId) (session : Option Session) (reason : String)
    (now : Int) :
    (unreachedExtension deployment id).news.Triple thread
      (fun world => ∀ opened ∈ session, World.Unsent id opened.sessionId thread.number world)
      (abandon deployment dispute session reason now) fun _ _ => True := by
  have hgive : (unreachedExtension deployment id).news.Triple thread
      (fun world => ∀ opened ∈ session, World.Unsent id opened.sessionId thread.number world)
      (perform (.abandon dispute (session.map Session.sessionId) reason now)) fun _ _ => True := by
    refine .perform (fun h hrely opened hopened => ?_) (fun world _ h hsame => ?_)
      fun _ _ _ _ _ _ _ _ => trivial
    · exact (lasting_unsent opened.sessionId).rely (h opened hopened) hrely
    · obtain ⟨opened, hopened, habout⟩ := Option.map_eq_some_iff.mp hsame
      exact h opened hopened habout
  have hnotice : Discreet deployment id thread (sendOpeningNotice deployment dispute now) :=
    discreet_of_makes (says_sendOpeningNotice (giveUp_passes dispute) now)
  refine Spec.Triple.bind _ hgive (fun _ => ?_) fun _ _ _ _ => trivial
  have hrest : Discreet deployment id thread ((sendOpeningNotice deployment dispute now).bind
      fun _ => (.done (.handedOff reason) : Daemon Opening)) :=
    .bind hnotice fun _ => discreet_done _
  cases session with
  | none => exact hrest
  | some session =>
    have hboth : Discreet deployment id thread ((perform (.closeChat session.sessionId)).bind
        fun _ => (sendOpeningNotice deployment dispute now).bind
          fun _ => (.done (.handedOff reason) : Daemon Opening)) :=
      .bind (discreet_of_makes (.perform trivial fun _ _ => trivial)) fun _ => hrest
    exact hboth

/-- An opening: what it sent is over before it may be given up. -/
theorem openDispute_discreet (dispute : DisputeId) (now : Int) :
    Discreet deployment id thread (openDispute deployment dispute now) := by
  have hbriefs := briefs_passes deployment Passed.plain fun _ => False
  refine .bind (discreet_of_makes (says_attempt (.perform trivial fun _ _ => trivial)))
    fun taken => ?_
  cases taken with
  | error reason =>
    exact .bind (discreet_of_makes (.perform trivial fun _ _ => trivial)) fun _ => discreet_done _
  | ok info =>
    refine Spec.Triple.attempt_bind (createSession_unsent dispute info now) fun created => ?_
    cases created with
    | error reason =>
      -- No session was opened, so nobody's messages are under way.
      exact (abandon_discreet dispute none reason now).consequence (fun _ _ _ _ hopened => by cases hopened)
        fun _ _ _ _ => trivial
    | ok session =>
      have hgreet : (unreachedExtension deployment id).news.Keeps thread
          (World.Unsent id session.sessionId thread.number) (greet deployment session) := by
        have hunsent : (unreachedExtension deployment id).news.Lasting thread
            (fun call => call.isGate = false) (World.Unsent id session.sessionId thread.number) :=
          lasting_unsent _
        refine .forEach hunsent fun opener hopener => ?_
        refine .bind (.ofExcept hunsent _) fun text => ?_
        refine sendOpener_spec session fun hnotice => ?_
        simp only [openers, List.mem_cons, List.not_mem_nil, or_false] at hopener
        -- The openers are no notices.
        rcases hopener with rfl | rfl <;> cases hnotice
      refine (Spec.Triple.attempt_bind hgreet fun greeted => ?_).consequence
        (fun _ _ hknown => hknown.2 session rfl) fun _ _ _ hknown => hknown
      cases greeted with
      | error failure =>
        refine (abandon_discreet dispute (some session) _ now).consequence
          (fun _ _ hknown opened hopened => ?_) fun _ _ _ _ => trivial
        rw [← Option.some.inj hopened]
        exact hknown
      | ok _ =>
        have hactivate : Discreet deployment id thread (activate deployment dispute session now) := by
          refine .bind (discreet_of_makes (.perform trivial fun _ _ => trivial)) fun _ => ?_
          refine .bind (discreet_of_makes (says_notifySolvers (tell_passes _ _) now)) fun _ => ?_
          exact .bind (discreet_of_makes (.perform trivial fun _ _ => trivial)) fun _ =>
            discreet_done _
        exact hactivate.consequence (fun _ _ _ => trivial) fun _ _ _ _ => trivial

/-- **An attempt to mediate** sends its openers one by one, and gives up with none on its way. -/
theorem consider_discreet (dispute : DisputeId) (now : Int) :
    Discreet deployment id thread (consider deployment dispute now) := by
  have hreports := (briefs_passes deployment Passed.plain fun _ => False).reports
  refine .bind (discreet_of_makes (says_attempt (says_claim hreports (fun _ _ _ => trivial) dispute)))
    fun verdict => ?_
  match verdict with
  | .ok (.error reason) => exact discreet_done _
  | .error failure => exact discreet_done _
  | .ok (.ok ()) =>
    refine .bind (.attempt (openDispute_discreet dispute now)) fun outcome => ?_
    refine .bind (discreet_of_makes (.perform trivial fun _ _ => trivial)) fun _ => ?_
    cases outcome <;> exact discreet_done _

/-- So does the pass over the disputes still open. -/
theorem reconsider_discreet (since now : Int) :
    Discreet deployment id thread (reconsider deployment since now) := by
  have hreports := (briefs_passes deployment Passed.plain fun _ => False).reports
  refine .bind (discreet_of_makes (says_attempt (says_query hreports rfl))) fun waiting => ?_
  cases waiting with
  | error failure => exact discreet_done ()
  | ok waiting =>
    exact .forEach discreet_true fun row _ =>
      .bind (consider_discreet row.disputeId now) fun _ => discreet_done ()

/-! ## Runs -/

/-- **Every task** sends for the session only what it may. -/
theorem unreached_launches (deployment : Deployment) (id : SessionId) :
    (unreachedExtension deployment id).contract.Launches := by
  refine Extension.launches (launches deployment _) ?_
  intro thread oracle world world' hinv hunbroken hcond hlaunch
  have hinv' : (unreachedExtension deployment id).news.inv world' :=
    ⟨(launch_stepped hinv hlaunch).inv,
      (unreachedExtension deployment id).launch_inv hinv hunbroken hcond hlaunch⟩
  suffices htask : Discreet deployment id thread (program deployment thread.role) from
    (htask.consequence (fun _ _ hknown => hknown) fun _ _ _ _ => trivial) world' hinv' trivial
  obtain ⟨number, role⟩ := thread
  have hreports := (briefs_passes deployment Passed.plain fun _ => False).reports
  have now : Discreet deployment id ⟨number, role⟩ (perform .now) :=
    discreet_of_makes (says_query hreports rfl)
  have notify : MayNotify (passes Passed.plain fun _ => False) :=
    ⟨fun _ _ _ => tell_passes _ _, fun _ _ => trivial, fun _ _ => trivial, fun _ => trivial⟩
  cases role with
  | turn about => exact (turn_discreet deployment id _ about).turnLogged
  | tick => exact (pass_discreet deployment id _).pass
  | consider dispute =>
    exact .bind now fun now => .bind (consider_discreet dispute now) fun _ => discreet_done ()
  | judgeChecks started =>
    exact .bind (discreet_of_makes (.perform trivial fun _ _ => trivial)) fun _ =>
      .bind now fun now => reconsider_discreet started now
  | finish dispute status byParties =>
    exact .bind now fun now => .bind (discreet_of_makes
      (says_finish hreports close_passes dispute status byParties now)) fun _ => discreet_done ()
  | finishPending =>
    exact .bind now fun now => discreet_of_makes (says_finishPending hreports close_passes _ now)
  | handleEvent dispute => exact discreet_of_makes (says_others hreports nofun nofun notify)
  | remind renotifyAfter => exact discreet_of_makes (says_others hreports nofun nofun notify)
  | resume => exact discreet_of_makes (says_others hreports nofun nofun fun _ => trivial)

/-- Nothing is being sent at the start. -/
theorem unbroken_start (id : SessionId) (clock : Int) : (World.start clock).Unbroken id :=
  ⟨nofun, nofun⟩

/-- Nothing of the session passed the gate since, or was sent. -/
structure World.StaysSilent (world : World) (id : SessionId) (later : World) : Prop where
  passed : ∃ more, later.passed = world.passed ++ more ∧
    ∀ message ∈ more, message.sessionId ≠ id
  sent : ∃ more, later.sent = world.sent ++ more ∧ ∀ message ∈ more, message.sessionId ≠ id

/-- The session's opening failed. -/
def World.Unreached (world : World) (id : SessionId) : Prop :=
  ∃ session, world.core.sessions[id]? = some session ∧
    session.handoffReason = some .openingFailed

/-- An opening that failed stays failed. -/
theorem World.Unreached.mono {world later : World} (h : world.Unreached id)
    (hfollows : world.Follows later) : later.Unreached id := by
  obtain ⟨session, hsession, hreason⟩ := h
  obtain ⟨found, hfound, hbecomes, -⟩ := hfollows.core.sessions id session hsession
  exact ⟨found, hfound, hbecomes.reason _ hreason⟩

/-- Nothing of a session whose opening failed is being sent. -/
theorem World.Unbroken.not_sending {world : World} (h : world.Unbroken id)
    (hunreached : world.Unreached id) {entry : Nat × Passed} (hentry : entry ∈ world.sending) :
    entry.2.sessionId ≠ id := by
  intro hid
  obtain ⟨row, hrow, hreason, -⟩ := h.carried entry hentry hid
  obtain ⟨session, hsession, hfailed⟩ := hunreached
  rw [hrow, Option.some.injEq] at hsession
  exact hreason (hsession ▸ hfailed)

/-- One move of an opening that failed says nothing. -/
theorem staysSilent_of_moves {world later : World}
    (h : (contract deployment (chatKept id)).Moves world later) (hunbroken : world.Unbroken id)
    (hunbroken' : later.Unbroken id) (hunreached : world.Unreached id) :
    world.StaysSilent id later := by
  have hlater : later.Unreached id := hunreached.mono (follows_of_moves h).2
  constructor
  · rcases gate_of_moves h with hsame | ⟨thread, rule, message, session, hadded, -, -, -, hsending⟩
    · exact ⟨[], by simpa using hsame, by simp⟩
    · refine ⟨[message], hadded, fun other hother => ?_⟩
      rw [List.mem_singleton.mp hother]
      exact hunbroken'.not_sending hlater hsending
  · rcases sent_of_moves h with hsame | ⟨entry, hsending, hadded⟩
    · exact ⟨[], by simpa using hsame, by simp⟩
    · refine ⟨[entry.2], hadded, fun other hother => ?_⟩
      rw [List.mem_singleton.mp hother]
      exact hunbroken.not_sending hunreached hsending

/-- Silence after silence. -/
theorem World.StaysSilent.trans {a b c : World} (h : a.StaysSilent id b)
    (h' : b.StaysSilent id c) : a.StaysSilent id c := by
  obtain ⟨⟨passed, hpassed, hnot⟩, sent, hsent, hnone⟩ := h
  obtain ⟨⟨passed', hpassed', hnot'⟩, sent', hsent', hnone'⟩ := h'
  refine ⟨⟨passed ++ passed', by rw [hpassed', hpassed, List.append_assoc], ?_⟩,
    sent ++ sent', by rw [hsent', hsent, List.append_assoc], ?_⟩
  · exact fun message hmessage => (List.mem_append.mp hmessage).elim (hnot message) (hnot' message)
  · exact fun message hmessage =>
      (List.mem_append.mp hmessage).elim (hnone message) (hnone' message)

/-- A run of moves is silent as each of them is. -/
theorem staysSilent_of_run {world later : World}
    (hrun : ReflTransGen (unreachedExtension deployment id).contract.Moves world later)
    (hinv : world.core.Inv) (hunbroken : world.Unbroken id) (hunreached : world.Unreached id) :
    world.StaysSilent id later := by
  let fact := fun later : World => world.StaysSilent id later ∧ later.Unreached id ∧
    (unreachedExtension deployment id).contract.inv later
  suffices hfact : fact later from hfact.1
  have hstart : fact world := by
    refine ⟨⟨⟨[], by simp, by simp⟩, [], by simp, by simp⟩, hunreached, hinv, hunbroken⟩
  refine Contract.Moves.run_induction fact ?_ hrun hstart
  rintro mid later ⟨hsilent, hmid, -, hmidUnbroken⟩ hmove
  have hinv' := hmove.inv
  have hbase := Extension.moves hmove
  exact ⟨hsilent.trans (staysSilent_of_moves hbase hmidUnbroken hinv'.2 hmid),
    hmid.mono (follows_of_moves hbase).2, hinv'⟩

/-- **An opening that failed stays silent** in every run in which no pass of the timers claims the
session because its chat is not open: once its reason is `opening_failed`, nothing of it passes the
gate or is sent. -/
theorem unreached_stays_silent {clock : Int} {conf conf' : Conf Call String Task World}
    (hrun : (machine deployment).RunsTo (chatKept id) (Serbero.start clock) conf)
    (hlater : (machine deployment).RunsTo (chatKept id) conf conf')
    (hfailed : (conf.world.store.session id).bind Session.handoffReason = some .openingFailed) :
    conf.world.StaysSilent id conf'.world := by
  have hstart : (unreachedExtension deployment id).contract.Kept (Serbero.start clock) :=
    Contract.kept_of_start ⟨inv_start clock, unbroken_start id clock⟩
  have hkept := (hstart.run (unreached_launches deployment id) hrun).1
  have hmoves := (hkept.run (unreached_launches deployment id) hlater).2
  obtain ⟨session, hsession, hreason⟩ := Option.bind_eq_some_iff.mp hfailed
  refine staysSilent_of_run hmoves hkept.1.1 hkept.1.2 ⟨session, ?_, hreason⟩
  rw [← hkept.1.1.session_eq]
  exact hsession

/-- The buyer's opener is not sent, and the opening is given up. -/
def unopenedSteps : List (Choice Task Oracle Happening) :=
  takenSteps ++ quietly 2 5 ++ [.run 2 { Oracle.quiet with fails := some "no relay" }] ++
    quietly 2 6

/-- Then the timers find nothing to send. -/
theorem unreached_stays_silent_unopened :
    let conf := (machine smallDeployment).after (chatKept 0) (Serbero.start 1000) unopenedSteps
    let conf' := (machine smallDeployment).after (chatKept 0) conf
      ([.launch .tick .quiet] ++ quietly 3 6)
    conf.world.StaysSilent 0 conf'.world :=
  unreached_stays_silent ((machine smallDeployment).runsTo_after (by decide +kernel))
    ((machine smallDeployment).runsTo_after (by decide +kernel)) (by decide +kernel)

/-- What was sent since is of other sessions. -/
theorem World.StaysSilent.drop {world later : World} (h : world.StaysSilent id later) :
    ∀ message ∈ later.sent.drop world.sent.length, message.sessionId ≠ id := by
  obtain ⟨more, hsent, hnone⟩ := h.sent
  rw [hsent, List.drop_left]
  exact hnone

/-- After a restart a pass of the timers cannot open the chat of an active session: it hands the
session off, and the buyer gets the notice. -/
theorem not_unreached_stays_silent :
    ¬∀ id conf conf', (machine smallDeployment).RunsTo Condition.always (Serbero.start 1000) conf →
      (machine smallDeployment).RunsTo Condition.always conf conf' →
        (conf.world.store.session id).bind Session.handoffReason = some .openingFailed →
          conf.world.StaysSilent id conf'.world := by
  intro h
  let lost := openedSteps ++ [.restart .quiet, .launch .tick .quiet] ++ quietly 3 3 ++
    [.run 3 { Oracle.quiet with fails := some "no relay" }] ++ quietly 3 1
  let conf := (machine smallDeployment).after Condition.always (Serbero.start 1000) lost
  let conf' := (machine smallDeployment).after Condition.always conf (quietly 3 14)
  have hsilent := h 0 conf conf' ((machine smallDeployment).runsTo_after (by decide +kernel))
    ((machine smallDeployment).runsTo_after (by decide +kernel)) (by decide +kernel)
  have hnone := hsilent.drop
  revert hnone
  decide +kernel

end Serbero
