import Serbero.Runtime.Calls

/-! # Every task keeps the contract

Each program of Serbero makes its calls with what they need, whatever the other tasks do in
between. -/

namespace Serbero

open Pool
open Pool.Program

/-- The call changes no session, no opening and no take. -/
def Call.isAside {β : Type} : Call β → Bool
  | .read _ | .load _ | .now | .readyJudge | .isTaking _ | .takeDispute _ | .fetchOrder => true
  | .openChat _ | .closeChat _ | .chatIsOpen _ => true
  | .wrap | .gate _ _ | .sendEvent _ | .insertMessage _ => true
  | .append _ | .insertEvaluation _ | .evaluate _ | .sendDm _ _ _ => true
  | _ => false

/-- The calls that change no session, no opening and no take. -/
def aside {β : Type} (call : Call β) : Prop := call.isAside = true

/-- All calls. -/
def anyCall {β : Type} (_ : Call β) : Prop := True

/-- The rows, takes and claims of a world are those of another. -/
structure SameRows (before after : World) : Prop where
  sessions : after.store.sessions = before.store.sessions
  openedBy : after.openedBy = before.openedBy
  ownTakes : after.ownTakes = before.ownTakes
  activated : after.activated = before.activated
  claims : after.claims = before.claims
  disputes : after.store.disputes = before.store.disputes

/-- A call that is aside leaves rows and takes alone. -/
theorem performCall_aside (deployment : Deployment) {β : Type} (thread : Thread Task)
    {call : Call β} (h : aside call) (oracle : Oracle) (world : World) :
    SameRows world (performCall deployment thread call oracle world).2 := by
  have hmakes := performCall_makes deployment thread call oracle world
  generalize (performCall deployment thread call oracle world).2 = later at hmakes ⊢
  cases hmakes with
  | _ => first | exact ⟨rfl, rfl, rfl, rfl, rfl, rfl⟩ | exact absurd h Bool.false_ne_true

section

variable {deployment : Deployment} {condition : Condition Call Task Oracle Happening World}
  {thread : Thread Task} {fact : World → Prop}

/-- What every evolution of the world keeps, every thread keeps knowing. -/
theorem lasting_of_follows
    (h : ∀ {world world' : World}, fact world → world.Follows world' → fact world') :
    (contract deployment condition).Lasting thread anyCall fact :=
  ⟨fun hfact hrely => h hfact hrely.follows, fun _ hinv hpre _ hfact =>
    h hfact (performCall_stepped deployment _ _ _ hinv hpre).follows⟩

/-- What lasts through every call lasts through those that are aside. -/
theorem lasting_aside (h : (contract deployment condition).Lasting thread anyCall fact) :
    (contract deployment condition).Lasting thread aside fact :=
  h.of_imp fun _ => trivial

/-! ## Sending -/

/-- Sending a message whose check of the gate needs what is known. -/
theorem keeps_sendWhen (hfact : (contract deployment condition).Lasting thread aside fact)
    {rule : GateRule} {session : Session} {message : Outbound}
    (hgate : ∀ world, world.core.Inv → fact world →
      Needs thread (.gate rule ⟨session.sessionId, message.party, message.template⟩) world) :
    (contract deployment condition).Keeps thread fact (sendWhen rule session message) := by
  let passed : Passed := ⟨session.sessionId, message.party, message.template⟩
  -- After the check the message is the thread's to send.
  let ready := fun world : World => fact world ∧ (thread.number, passed) ∈ world.sending
  have hcheck : (contract deployment condition).Triple thread fact (perform (.gate rule passed))
      fun result world => fact world ∧ (result = .ok () → ready world) := by
    refine .perform hfact.rely hgate ?_
    intro world oracle later hinv hknown hcond hrely _
    have hcall : aside (Call.gate rule passed) := rfl
    have hlater := hfact.rely (hfact.call hcall hinv (hgate world hinv hknown) hcond hknown) hrely
    refine ⟨hlater, fun hresult => ⟨hlater, hrely.leaves.sending _ ?_⟩⟩
    revert hresult
    change (world.orFail oracle (world.checkGate thread.number rule passed)).1 = .ok () →
      _ ∈ (world.orFail oracle (world.checkGate thread.number rule passed)).2.sending
    unfold World.orFail World.checkGate
    split
    · exact fun h => by cases h
    · split
      · exact fun _ => List.mem_append_right _ List.mem_cons_self
      · exact fun h => by cases h
  have hsend : (contract deployment condition).Triple thread ready (perform (.sendEvent passed))
      fun _ => fact := by
    have hcall : aside (Call.sendEvent passed) := rfl
    refine .perform (fun hready hrely => ⟨hfact.rely hready.1 hrely,
      hrely.leaves.sending _ hready.2⟩) (fun _ _ hready => hready.2) ?_
    intro world oracle later hinv hready hcond hrely _
    exact hfact.rely (hfact.call hcall hinv hready.2 hcond hready.1) hrely
  have hstore : ∀ createdAt, (contract deployment condition).Keeps thread fact
      ((perform (.insertMessage
        { sessionId := session.sessionId
          direction := .outbound
          party := message.party
          templateId := some message.template
          lang := some message.lang
          content := message.text
          attachments := 0
          innerEventId := .serbero createdAt message.text
          createdAt := createdAt })).bind fun _ => (done () : Daemon Unit)) :=
    fun _ => .bind (.perform hfact rfl fun _ _ _ => rfl) fun _ => .done hfact ()
  refine .bind (.perform hfact rfl fun _ _ _ => trivial) fun createdAt => ?_
  refine hcheck.bind _ (fun _ => ?_) fun _ _ _ hmid => hmid.1
  refine (hsend.consequence (fun _ _ hmid => hmid.2 rfl) fun _ _ _ hkept => hkept).bind _
    (fun _ => hstore createdAt) fun _ _ _ hkept => hkept

/-- A rendered message has the template and the party asked for. -/
theorem renderFor_cases (deployment : Deployment) (session : Session) (party : Party)
    (template : Template) (withIntro : Bool) :
    (∃ message, renderFor deployment session party template withIntro = .done message ∧
        message.template = template ∧ message.party = party) ∨
      ∃ failure, renderFor deployment session party template withIntro = .raise failure := by
  cases htext : deployment.render (languageOf deployment session party) template withIntro
    session.amount with
  | ok text =>
    refine Or.inl ⟨⟨party, text, template, languageOf deployment session party⟩, ?_, rfl, rfl⟩
    simp only [renderFor, htext]
    rfl
  | error failure =>
    refine Or.inr ⟨failure, ?_⟩
    simp only [renderFor, htext]
    rfl

/-- Sending a template: the hand-off notice passes in any live state, the others only while Serbero
mediates. -/
theorem keeps_sendTemplate (hfact : (contract deployment condition).Lasting thread aside fact)
    (session : Session) (party : Party) (template : Template) :
    (contract deployment condition).Keeps thread fact
      (sendTemplate deployment session party template) := by
  refine .bind (.perform hfact rfl fun _ _ _ => trivial) fun withIntro => ?_
  rcases renderFor_cases deployment session party template withIntro with
    ⟨message, hrender, htemplate, -⟩ | ⟨failure, hrender⟩
  · rw [hrender]
    change (contract deployment condition).Keeps thread fact
      (if template = .handoffNotice then sendToParty session message
        else sendWhileMediating session message)
    split
    · next hnotice => exact keeps_sendWhen hfact fun _ _ _ => Or.inl (htemplate.trans hnotice)
    · exact keeps_sendWhen hfact fun _ _ _ => trivial
  · rw [hrender]
    exact .raise hfact failure

/-- Asking whether a party received a template. -/
theorem keeps_received (hfact : (contract deployment condition).Lasting thread aside fact)
    (session : Session) (party : Party) (template : Template) :
    (contract deployment condition).Keeps thread fact (received session party template) :=
  .perform hfact rfl fun _ _ _ => trivial

/-- Writing to the solvers, and recording what came of it. -/
theorem keeps_notifySolvers (hfact : (contract deployment condition).Lasting thread aside fact)
    (solvers : List Solver) (dispute : DisputeId) (notification : String) (now : Int) :
    (contract deployment condition).Keeps thread fact
      (notifySolvers solvers dispute notification now) := by
  refine .bind (.foldEach hfact (fun carried solver _ => ?_) (0, none)) fun result => ?_
  · refine .bind (.attempt (.perform hfact rfl fun _ _ _ => trivial)) fun sent => ?_
    refine .bind (.attempt (.perform hfact rfl fun _ _ _ => ?_)) fun recorded => ?_
    · cases sent <;> rfl
    · cases recorded <;> exact .done hfact _
  · obtain ⟨delivered, recordError⟩ := result
    cases recordError with
    | none => exact .done hfact delivered
    | some failure => exact .raise hfact failure

/-- The parts to one solver, up to the first that fails. -/
theorem keeps_deliverParts (hfact : (contract deployment condition).Lasting thread aside fact)
    (solver : Solver) (dispute : DisputeId) (now : Int) (parts : List String) :
    (contract deployment condition).Keeps thread fact (deliverParts solver dispute now parts) := by
  induction parts with
  | nil => exact .done hfact true
  | cons notification rest ih =>
    refine .bind (.perform hfact rfl fun _ _ _ => trivial) fun sentAt => ?_
    refine .bind (keeps_notifySolvers hfact [solver] dispute notification _) fun sent => ?_
    split
    · exact .done hfact false
    · exact ih

/-- The parts to every solver. -/
theorem keeps_deliver (hfact : (contract deployment condition).Lasting thread aside fact)
    (solvers : List Solver) (dispute : DisputeId) (parts : List String) (now : Int) :
    (contract deployment condition).Keeps thread fact (deliver solvers dispute parts now) :=
  .foldEach hfact (fun _ solver _ =>
    .bind (keeps_deliverParts hfact solver dispute now parts) fun _ => .done hfact _) 0

/-- What a section that only reads finds is known while it lasts. -/
theorem learns_of_look (hfact : (contract deployment condition).Lasting thread aside fact)
    {α : Type} {call : Call α} (hcall : aside call) (hpre : ∀ world, Needs thread call world)
    (query : Store → α) (hperform : ∀ oracle world, performCall deployment thread call oracle world =
      world.orFail oracle (.ok (query world.store), world.look thread.number))
    {known : α → World → Prop}
    (hquery : ∀ world, world.core.Inv → fact world → known (query world.store) world)
    (hknown : ∀ {value world world'}, known value world → world.Follows world' →
      known value world') :
    (contract deployment condition).Learns thread fact (perform call) known := by
  refine .perform hfact.rely (fun world _ _ => hpre world) ?_
  intro world oracle later hinv hholds hcond hrely _
  refine ⟨hfact.rely (hfact.call hcall hinv (hpre world) hcond hholds) hrely,
    fun value hresult => ?_⟩
  change (performCall deployment thread call oracle world).1 = _ at hresult
  change Rely thread (performCall deployment thread call oracle world).2 later at hrely
  rw [hperform] at hresult hrely
  unfold World.orFail at hresult hrely
  cases hfails : oracle.fails with
  | some failure =>
    rw [hfails] at hresult
    cases hresult
  | none =>
    rw [hfails] at hresult hrely
    cases hresult
    have hlook := (Stepped.look hinv fun _ => True : Stepped _ world (world.look thread.number))
    exact hknown (hquery world hinv hholds) (hlook.follows.trans hrely.follows)

/-- A query of the store. -/
theorem learns_read (hfact : (contract deployment condition).Lasting thread aside fact) {α : Type}
    {query : Store → α} {known : α → World → Prop}
    (hquery : ∀ world, world.core.Inv → fact world → known (query world.store) world)
    (hknown : ∀ {value world world'}, known value world → world.Follows world' →
      known value world') :
    (contract deployment condition).Learns thread fact (perform (.read query)) known :=
  have hcall : aside (Call.read query) := rfl
  learns_of_look hfact hcall (fun _ => trivial) query (fun _ _ => rfl) hquery hknown

/-! ## Briefs and hand-offs -/

/-- Asking the judge for a brief. -/
theorem keeps_askBrief (hfact : (contract deployment condition).Lasting thread aside fact)
    (session : Session) (reading : TurnReading) (subject : Subject) (now : Int) :
    (contract deployment condition).Keeps thread fact
      (askBrief deployment session reading subject now) := by
  have hjudge : (contract deployment condition).Keeps thread fact
      ((attempt (perform (.evaluate reading.state))).bind
        (judgedBrief deployment session reading subject now)) := by
    refine .bind (.attempt (.perform hfact rfl fun _ _ _ => trivial)) fun judged => ?_
    cases judged with
    | error failure => exact .done hfact _
    | ok answers =>
      exact .bind (.attempt (.perform hfact rfl fun _ _ _ => trivial)) fun _ => .done hfact _
  refine .bind (.attempt (.perform hfact rfl fun _ _ _ => trivial)) fun stored => ?_
  split
  · exact .done hfact _
  · exact hjudge

/-- The brief and the transcript to the solvers. -/
theorem keeps_briefSolvers (hfact : (contract deployment condition).Lasting thread aside fact)
    (session : Session) (subject : Subject) (reading : Option TurnReading) (now : Int) :
    (contract deployment condition).Keeps thread fact
      (briefSolvers deployment session subject reading now) := by
  refine .bind (.perform hfact rfl fun _ _ _ => trivial) fun messages => ?_
  refine .bind (.perform hfact rfl fun _ _ _ => trivial) fun ready => ?_
  have hdeliver : (contract deployment condition).Keeps thread fact
      (deliver (recipients deployment.solvers) session.disputeId
        ("brief" :: List.replicate (deployment.parts messages) "transcript") now) :=
    keeps_deliver hfact _ _ _ _
  cases reading with
  | none => exact .bind (.done hfact _) fun _ => hdeliver
  | some reading =>
    simp only []
    split
    · exact .bind (keeps_askBrief hfact session reading subject now) fun _ => hdeliver
    · exact .bind (.done hfact _) fun _ => hdeliver

/-- The hand-off notice of one party. -/
theorem keeps_tellHandoff (hfact : (contract deployment condition).Lasting thread aside fact)
    (session : Session) (party : Party) :
    (contract deployment condition).Keeps thread fact (tellHandoff deployment session party) := by
  refine .bind (keeps_received hfact session party .handoffNotice) fun told => ?_
  split
  · exact .done hfact ()
  · exact .bind (.attempt (keeps_sendTemplate hfact session party .handoffNotice)) fun _ =>
      .done hfact ()

/-- Handing off a session known to have been active. -/
theorem keeps_handOff (hfact : (contract deployment condition).Lasting thread anyCall fact)
    {session : Session}
    (hknown : ∀ world, fact world → world.core.Known session.sessionId 1 session.disputeId)
    (reason : HandoffReason) (reading : Option TurnReading) (now : Int) :
    (contract deployment condition).Keeps thread fact
      (handOff deployment session reason reading now) := by
  have hside := lasting_aside hfact
  have htell : (contract deployment condition).Keeps thread fact
      ((forEach (tellHandoff deployment session) Party.both).bind fun _ =>
        (done true : Daemon Bool)) :=
    .bind (.forEach hside fun party _ => keeps_tellHandoff hside session party) fun _ =>
      .done hfact true
  refine .bind (.perform hfact trivial fun world _ => hknown world) fun claimed => ?_
  split
  · exact .done hfact false
  · refine .bind (keeps_briefSolvers hside session _ reading now) fun delivered => ?_
    split
    · exact .bind (.perform hside rfl fun _ _ _ => rfl) fun _ => htell
    · exact htell

/-- The messages since the last update. -/
theorem keeps_forwardUpdates (hfact : (contract deployment condition).Lasting thread aside fact)
    (session : Session) (now : Int) :
    (contract deployment condition).Keeps thread fact (forwardUpdates deployment session now) := by
  refine .bind (.perform hfact rfl fun _ _ _ => trivial) fun fresh => ?_
  split
  · exact .done hfact 0
  · refine .bind (keeps_deliver hfact _ _ _ now) fun delivered => ?_
    split
    · exact .done hfact 0
    · exact .bind (.perform hfact rfl fun _ _ _ => rfl) fun _ => .done hfact _

/-! ## Guidance and holds -/

/-- The guides of a path. -/
theorem keeps_sendGuides (hfact : (contract deployment condition).Lasting thread aside fact)
    (session : Session) (path : Path) :
    (contract deployment condition).Keeps thread fact (sendGuides deployment session path) := by
  refine .foldEach hfact (fun missing entry _ => ?_) 0
  refine .bind (keeps_received hfact session entry.1 entry.2) fun got => ?_
  split
  · exact .done hfact missing
  · refine .bind (.attempt (keeps_sendTemplate hfact session entry.1 entry.2)) fun sent => ?_
    cases sent <;> exact .done hfact _

/-- The guides that are missing. -/
theorem keeps_resendGuides (hfact : (contract deployment condition).Lasting thread aside fact)
    (session : Session) :
    (contract deployment condition).Keeps thread fact (resendGuides deployment session) := by
  refine .bind (.perform hfact rfl fun _ _ _ => trivial) fun path => ?_
  split
  · exact keeps_sendGuides hfact session _
  · exact .done hfact 0

/-- Guiding a session known to have been active. -/
theorem keeps_guide (hfact : (contract deployment condition).Lasting thread anyCall fact)
    {session : Session}
    (hknown : ∀ world, fact world → world.core.Known session.sessionId 1 session.disputeId)
    (path : Path) (reading : TurnReading) (now : Int) :
    (contract deployment condition).Keeps thread fact
      (guide deployment session path reading now) := by
  have hside := lasting_aside hfact
  have hsend : (contract deployment condition).Keeps thread fact
      ((sendGuides deployment session path).bind fun _ => (done () : Daemon Unit)) :=
    .bind (keeps_sendGuides hside session path) fun _ => .done hfact ()
  refine .bind (.perform hfact trivial fun world _ => hknown world) fun claimed => ?_
  split
  · exact .done hfact ()
  · refine .bind (keeps_briefSolvers hside session _ _ now) fun delivered => ?_
    split
    · exact .bind (.perform hside rfl fun _ _ _ => rfl) fun _ => hsend
    · exact hsend

/-- The hold notices since the cutoff. -/
theorem keeps_sendHoldNotices (hfact : (contract deployment condition).Lasting thread aside fact)
    (session : Session) (cutoff : Int) :
    (contract deployment condition).Keeps thread fact
      (sendHoldNotices deployment session cutoff) := by
  refine .forEach hfact fun party _ => ?_
  refine .bind (.attempt (.perform hfact rfl fun _ _ _ => trivial)) fun got => ?_
  split
  · exact .bind (.attempt (keeps_sendTemplate hfact session party .holdNotice)) fun _ =>
      .done hfact ()
  · exact .done hfact ()

/-- Holding a session known to have been active. -/
theorem keeps_hold (hfact : (contract deployment condition).Lasting thread anyCall fact)
    {session : Session}
    (hknown : ∀ world, fact world → world.core.Known session.sessionId 1 session.disputeId)
    (now : Int) :
    (contract deployment condition).Keeps thread fact (hold deployment session now) :=
  .bind (.perform hfact trivial fun world _ => hknown world) fun cutoff =>
    keeps_sendHoldNotices (lasting_aside hfact) session cutoff

/-! ## Closings -/

/-- The most recent session of a dispute is one of its sessions. -/
theorem mem_of_latestForDispute {store : Store} {id : DisputeId} {session : Session}
    (h : store.latestForDispute id = some session) :
    session ∈ store.sessions ∧ session.disputeId = id := by
  have hmem := List.mem_of_getLast? h
  rw [List.mem_insertionSort, List.mem_filter, beq_iff_eq] at hmem
  exact hmem

/-- Thanking a party of a session that may be thanked. -/
theorem keeps_thank (hfact : (contract deployment condition).Lasting thread aside fact)
    {session : Session} (hclosing : ∀ world, fact world → world.core.Closing session.sessionId)
    (complete : Bool) (party : Party) :
    (contract deployment condition).Keeps thread fact
      (thank deployment session complete party) := by
  refine .bind (keeps_received hfact session party .resolvedThanks) fun got => ?_
  split
  · exact .done hfact complete
  · refine .bind (.attempt ?_) fun sent => ?_
    · rcases renderFor_cases deployment session party .resolvedThanks false with
        ⟨message, hrender, htemplate, -⟩ | ⟨failure, hrender⟩
      · rw [hrender]
        exact keeps_sendWhen hfact fun world _ hholds => ⟨htemplate, hclosing world hholds⟩
      · rw [hrender]
        exact .raise hfact failure
    · cases sent <;> exact .done hfact _

/-- The final report. -/
theorem keeps_sendReport (hfact : (contract deployment condition).Lasting thread aside fact)
    (dispute : DisputeId) (history : List Event) (now : Int) :
    (contract deployment condition).Keeps thread fact
      (sendReport deployment dispute history now) := by
  unfold sendReport
  split
  · exact .done hfact true
  · exact .bind (keeps_notifySolvers hfact _ _ _ _) fun _ => .done hfact _

/-- A session the parties resolved themselves was not handed off when it was read. -/
theorem outcome_eq_selfResolved {session : Session} {byParties : Bool}
    (h : outcome session byParties = .selfResolved) :
    session.handoffReason = none ∧ byParties = true := by
  unfold outcome at h
  split at h
  · cases h
  · next hnone =>
    split at h
    · cases h
    · next hcond =>
      rw [Bool.or_eq_true, not_or] at hcond
      exact ⟨hnone, by simpa using hcond.2⟩

/-- Closing a dispute known to be resolved. -/
theorem keeps_closeResolved (hfact : (contract deployment condition).Lasting thread anyCall fact)
    {dispute : DisputeId} {byParties : Bool}
    (hresolved : ∀ world, fact world → world.core.ResolvedBy dispute byParties)
    (status : DisputeStatus) (now : Int) :
    (contract deployment condition).Keeps thread fact
      (closeResolved deployment dispute status byParties now) := by
  let closing := fun (read : Option Session × List Event) (world : World) =>
    ∀ session, read.1 = some session → outcome session byParties = .selfResolved →
      world.core.Closing session.sessionId
  have hlasting : ∀ read, (contract deployment condition).Lasting thread anyCall (closing read) :=
    fun read => lasting_of_follows fun hclosing hfollows session hsession hended =>
      (hclosing session hsession hended).mono hfollows.core
  refine Spec.Learns.bind closing (learns_read (lasting_aside hfact) ?_ ?_) fun read => ?_
  -- A session that the parties closed themselves is closed by the resolution that is finished.
  · intro world hinv hholds session hsession hended
    obtain ⟨hmem, hdispute⟩ := mem_of_latestForDispute hsession
    obtain ⟨hnone, hby⟩ := outcome_eq_selfResolved hended
    refine ⟨session, hinv.getElem?_of_mem hmem, ?_, fun _ => hnone⟩
    rw [hdispute, ← hby]
    exact hresolved world hholds
  · exact fun hclosing hfollows session hsession hended =>
      (hclosing session hsession hended).mono hfollows.core
  · have hboth := hfact.and (hlasting read)
    have hside := lasting_aside hboth
    obtain ⟨latest, history⟩ := read
    cases latest with
    | none => exact .done hboth none
    | some session =>
      simp only []
      split
      · exact .done hboth none
      -- Close the chat, thank the parties, tell the solvers, record the end.
      · refine .bind (.perform hside rfl fun _ _ _ => trivial) fun _ => ?_
        refine .bind ?_ fun thanked => ?_
        · unfold thankParties
          split
          · next hended =>
            exact .foldEach hside (fun complete party _ => keeps_thank hside
              (fun world hholds => hholds.2 session rfl hended) complete party) true
          · exact .done hboth true
        · refine .bind (keeps_sendReport hside dispute history now) fun reported => ?_
          split
          · exact .bind (.perform hside rfl fun _ _ _ => rfl) fun _ => .done hboth _
          · exact .done hboth _

/-- A closing may finish the dispute, for which its status must be known. -/
theorem keeps_finish (hfact : (contract deployment condition).Lasting thread anyCall fact)
    {dispute : DisputeId} {byParties : Bool}
    (hresolved : ∀ world, fact world → world.core.ResolvedBy dispute byParties)
    (status : DisputeStatus) (now : Int) :
    (contract deployment condition).Keeps thread fact
      (finish deployment dispute status byParties now) := by
  refine .bind (.perform hfact trivial fun _ _ _ => trivial) fun _ => ?_
  refine .bind (.attempt (keeps_closeResolved hfact hresolved status now)) fun result => ?_
  exact .bind (.perform hfact trivial fun _ _ _ => trivial) fun _ => .ofExcept hfact result

/-- A stored resolution tells how its dispute was resolved. -/
theorem resolvedBy_of_unfinished {world : World} (h : world.core.Inv) {since : Int}
    {resolution : Resolution} (hmem : resolution ∈ world.store.unfinishedResolutions since) :
    world.core.ResolvedBy resolution.disputeId resolution.byParties := by
  obtain ⟨event, hevent, hresolution⟩ := List.mem_filterMap.mp hmem
  refine h.resolutions event (List.mem_filter.mpr ⟨(List.mem_filter.mp hevent).1, ?_⟩) resolution
    hresolution
  unfold Store.resolution at hresolution
  split at hresolution
  · next hkind => rw [hkind]; rfl
  · cases hresolution

/-- The closings still pending are known from the store that lists them. -/
theorem keeps_finishPending (hfact : (contract deployment condition).Lasting thread anyCall fact)
    (since now : Int) :
    (contract deployment condition).Keeps thread fact (finishPending deployment since now) := by
  let known := fun (pending : List Resolution) (world : World) => ∀ resolution ∈ pending,
    world.core.ResolvedBy resolution.disputeId resolution.byParties
  have hlasting : ∀ pending, (contract deployment condition).Lasting thread anyCall
      (known pending) :=
    fun pending => lasting_of_follows fun hknown hfollows resolution hmem =>
      (hknown resolution hmem).mono hfollows.core
  refine Spec.Learns.attempt_bind known (learns_read (lasting_aside hfact) ?_ ?_)
    (fun pending => ?_) fun _ => .done hfact ()
  · exact fun world hinv _ resolution hmem => resolvedBy_of_unfinished hinv hmem
  · exact fun hknown hfollows resolution hmem => (hknown resolution hmem).mono hfollows.core
  · have hboth := hfact.and (hlasting pending)
    refine .forEach hboth fun resolution hmem => ?_
    exact .bind (.attempt (keeps_finish hboth (fun world hholds => hholds.2 resolution hmem) _ now))
      fun _ => .done hboth ()

end

end Serbero
