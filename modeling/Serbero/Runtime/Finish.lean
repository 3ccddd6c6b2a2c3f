import Serbero.Runtime.Closings

/-! # Closing exactly once

Every try of a closing knows before each message and each record that it was not sent or stored
before, whatever the earlier tries left behind. -/

namespace Serbero

open Pool Relation
open Pool.Program

variable {deployment : Deployment} {hdistinct : deployment.DistinctThanks} {thread : Thread Task}
  {number : Nat}

/-! ## What the lock keeps -/

/-- A fact that lasts while the account of the closings stays. -/
def Lasts (number : Nat) (fact : World → Prop) : Prop :=
  ∀ {world later : World}, fact world → later.account number = world.account number →
    world.core.Follows later.core → fact later

section

variable {world later : World}

/-- Of the messages that went out the account has the thanks. -/
theorem mem_sent_of_account (h : later.account number = world.account number) {message : Passed}
    (hthanks : message.template = .resolvedThanks) :
    message ∈ later.sent ↔ message ∈ world.sent := by
  have hsame := congrArg (message ∈ ·) (congrArg Account.sent h)
  simpa [World.account, hthanks] using hsame

/-- Of those stored it has the thanks as well. -/
theorem stored_of_account (h : later.account number = world.account number) {message : Passed}
    (hthanks : message.template = .resolvedThanks) :
    later.Stored message ↔ world.Stored message := by
  have hrows : ∀ row : Message, row.isSent message.party message.template = true →
      (row ∈ later.store.messages ↔ row ∈ world.store.messages) := by
    intro row hsent
    have hsame := congrArg (row ∈ ·) (congrArg Account.thanks h)
    have hrow : row.isThanks = true := by
      simp only [Message.isSent, Bool.and_eq_true] at hsent
      simp [Message.isThanks, hsent.1.1, hsent.2, ← hthanks]
    simpa [World.account, hrow] using hsame
  constructor
  · rintro ⟨row, hrow, hid, hsent⟩
    exact ⟨row, (hrows row hsent).mp hrow, hid, hsent⟩
  · rintro ⟨row, hrow, hid, hsent⟩
    exact ⟨row, (hrows row hsent).mpr hrow, hid, hsent⟩

/-- Of what the solvers were told it has the final reports. -/
theorem mem_told_of_account (h : later.account number = world.account number) {told : Told}
    (hreport : told.notification = "final_report") : told ∈ later.told ↔ told ∈ world.told := by
  have hsame := congrArg (told ∈ ·) (congrArg Account.told h)
  simpa [World.account, hreport] using hsame

/-- Of the events it has the reports and the finished closings. -/
theorem mem_events_of_account (h : later.account number = world.account number) {event : Event}
    (hkind : event.kind.isOther = false) :
    event ∈ later.store.events ↔ event ∈ world.store.events := by
  have hsame := congrArg (event ∈ ·) (congrArg Account.events h)
  have hpicked : (event.kind.isReport || event.kind.isFinish) = true := by
    simpa [EventKind.isOther, or_iff_not_imp_left] using hkind
  simpa [World.account, hpicked] using hsame

end

/-- Holding the lock with nothing left to be stored lasts. -/
theorem lasts_closes : Lasts number (World.Closes number) := by
  intro world later hcloses hsame _
  refine ⟨(congrArg Account.finishing hsame).trans hcloses.holds, ?_, ?_⟩
  · intro message hmem hthanks
    exact (stored_of_account hsame hthanks).mpr
      (hcloses.thanked message ((mem_sent_of_account hsame hthanks).mp hmem) hthanks)
  · intro told htold hreport
    obtain ⟨event, hevent, hid, hkind⟩ :=
      hcloses.reported told ((mem_told_of_account hsame hreport).mp htold) hreport
    have hother : event.kind.isOther = false := by simp [EventKind.isOther, hkind]
    exact ⟨event, (mem_events_of_account hsame hother).mpr hevent, hid, hkind⟩

/-- A dispute that is not finished stays so while the account does. -/
theorem lasts_notFinished (dispute : DisputeId) :
    Lasts number fun world => ¬world.Finished dispute := by
  rintro world later hnot hsame - ⟨event, hevent, hid, hkind⟩
  have hother : event.kind.isOther = false := by simp [EventKind.isOther, hkind]
  exact hnot ⟨event, (mem_events_of_account hsame hother).mp hevent, hid, hkind⟩

/-- Whether a thanks is stored lasts with the account. -/
theorem lasts_stored (id : SessionId) (party : Party) (stored : Bool) :
    Lasts number fun world => (stored = true ↔ world.Stored (thanksTo id party)) := by
  intro world later h hsame _
  rw [stored_of_account hsame rfl]
  exact h

/-- That the report was told lasts with it. -/
theorem lasts_reportTold (dispute : DisputeId) :
    Lasts number fun world => world.ReportTold dispute := by
  rintro world later ⟨told, hmem, hreport, hdispute⟩ hsame -
  exact ⟨told, (mem_told_of_account hsame hreport).mpr hmem, hreport, hdispute⟩

/-- A closing: the dispute that ended, its session as it was read, whether its parties resolved it,
and whether the report was on record. -/
structure Closing where
  dispute : DisputeId
  session : Session
  byParties : Bool
  reported : Bool

/-- The session closed is one of the dispute, which ended that way. -/
def Closing.Of (closing : Closing) (core : Core) : Prop :=
  closing.session.disputeId = closing.dispute ∧
    core.ResolvedBy closing.dispute closing.byParties ∧
      ∃ session, core.sessions[closing.session.sessionId]? = some session ∧
        closing.session.Becomes session

/-- A closing stays one of its session as the core evolves. -/
theorem Closing.Of.mono {closing : Closing} {core core' : Core} (h : closing.Of core)
    (hfollows : core.Follows core') : closing.Of core' := by
  obtain ⟨hdispute, hresolved, session, hsession, hbecomes⟩ := h
  obtain ⟨later, hlater, hlaterBecomes, -⟩ := hfollows.sessions _ session hsession
  exact ⟨hdispute, hresolved.mono hfollows, later, hlater, hbecomes.trans hlaterBecomes⟩

/-- The report was told before the closing, or by no other closing. -/
def World.OneReport (closing : Closing) (world : World) : Prop :=
  if closing.reported then world.ReportTold closing.dispute
  else ∀ told ∈ world.told, told.notification = "final_report" →
    told.disputeId = closing.dispute → told.closing = world.closings

/-- That no other closing tells the report lasts. -/
theorem lasts_oneReport (closing : Closing) : Lasts number (World.OneReport closing) := by
  intro world later h hsame hfollows
  unfold World.OneReport at h ⊢
  split
  · next hreported =>
    rw [if_pos hreported] at h
    exact lasts_reportTold _ h hsame hfollows
  · next hreported =>
    rw [if_neg hreported] at h
    intro told htold hreport hdispute
    rw [show later.closings = world.closings from congrArg Account.closings hsame]
    exact h told ((mem_told_of_account hsame hreport).mp htold) hreport hdispute

/-- A closing under way: the lock is held with nothing left to be stored, the dispute is not
finished, no other closing reports it, and the promised thanks went out. -/
structure World.Working (number : Nat) (closing : Closing) (promised : Party → Prop)
    (world : World) : Prop extends world.Closes number where
  unfinished : ¬world.Finished closing.dispute
  known : closing.Of world.core
  oneReport : world.OneReport closing
  kept : ∀ party, promised party → thanksTo closing.session.sessionId party ∈ world.sent

/-- A closing under way stays so while the account does. -/
theorem lasts_working {closing : Closing} {promised : Party → Prop} :
    Lasts number (World.Working number closing promised) :=
  fun h hsame hfollows =>
    { toCloses := lasts_closes h.toCloses hsame hfollows
      unfinished := lasts_notFinished closing.dispute h.unfinished hsame hfollows
      known := h.known.mono hfollows
      oneReport := lasts_oneReport closing h.oneReport hsame hfollows
      kept := fun party hpromised => (mem_sent_of_account hsame rfl).mpr (h.kept party hpromised) }

/-- Fewer thanks may be promised. -/
theorem World.Working.weaken {closing : Closing} {promised promised' : Party → Prop} {world : World}
    (h : world.Working number closing promised)
    (hfewer : ∀ party, promised' party → promised party) :
    world.Working number closing promised' :=
  { h with kept := fun party hpromised => h.kept party (hfewer party hpromised) }

/-! ## Calls of a closing -/

/-- The call only asks, or closes a chat. -/
def plain {β : Type} (call : Call β) : Prop :=
  match call with
  | .closeChat _ => True
  | call => call.isQuery = true

/-- A plain call leaves the account and the core. -/
theorem performCall_plain {β : Type} {call : Call β} (h : plain call) (oracle : Oracle)
    (world : World) :
    (performCall deployment thread call oracle world).2.account number = world.account number ∧
      (performCall deployment thread call oracle world).2.core = world.core := by
  have hmakes := performCall_makes deployment thread call oracle world
  generalize (performCall deployment thread call oracle world).2 = later at hmakes ⊢
  cases hmakes with
  | _ => first | exact ⟨rfl, rfl⟩ | cases h

/-- One call of a closing, for facts that last while the lock is held. -/
theorem triple_perform {α : Type} {call : Call α} {before : World → Prop}
    {after : Except String α → World → Prop} (hbefore : Lasts thread.number before)
    (hholds : ∀ {world}, before world → world.finishing = some thread.number)
    (hpre : ∀ world, before world → Settles deployment thread call world)
    (hafter : ∀ result, Lasts thread.number (after result))
    (hstill : ∀ {result world}, after result world → world.finishing = some thread.number)
    (hcall : ∀ world oracle, (closeExtension deployment hdistinct).news.inv world → before world →
      (accounted.whenEnabled (machine deployment)).call thread call oracle world = true →
        after (performCall deployment thread call oracle world).1
          (performCall deployment thread call oracle world).2) :
    (closeExtension deployment hdistinct).news.Triple thread before (perform call) after := by
  refine .perform (fun {world later} hholds' hrely => ?_) (fun world _ => hpre world) ?_
  · exact hbefore hholds' (hrely.2 (hholds hholds')) hrely.1.follows.core
  · intro world oracle later hinv hholds' hcond hrely _
    have hdone := hcall world oracle hinv hholds' hcond
    exact hafter _ hdone (hrely.2 (hstill hdone)) hrely.1.follows.core

section

variable {closing : Closing} {promised : Party → Prop}

/-- A plain call of a closing. -/
theorem working_plain {α : Type} {call : Call α} (hcall : plain call) {fact : World → Prop}
    (hfact : Lasts thread.number fact)
    (hholds : ∀ {world}, fact world → world.finishing = some thread.number) :
    (closeExtension deployment hdistinct).news.Keeps thread fact (perform call) := by
  refine triple_perform hfact hholds (fun world _ => ?_) (fun _ => hfact) hholds ?_
  · cases call <;> first | exact trivial | exact absurd hcall Bool.false_ne_true
  · intro world oracle _ hbefore _
    obtain ⟨haccount, hcore⟩ := performCall_plain hcall oracle world
    refine hfact hbefore haccount ?_
    rw [hcore]
    exact .refl world.core

/-- What a closing reads of the store is known while it lasts. -/
theorem working_read {α : Type} {query : Store → α} {fact : World → Prop}
    {known : α → World → Prop} (hfact : Lasts thread.number fact)
    (hholds : ∀ {world}, fact world → world.finishing = some thread.number)
    (hknown : ∀ value, Lasts thread.number (known value))
    (hquery : ∀ world, (closeExtension deployment hdistinct).news.inv world → fact world →
      known (query world.store) world) :
    (closeExtension deployment hdistinct).news.Triple thread fact (perform (.read query))
      fun result world => fact world ∧ ∀ value, result = .ok value → known value world := by
  refine triple_perform hfact hholds (fun _ _ => trivial) ?_ (fun hafter => hholds hafter.1) ?_
  · exact fun result world later h hsame hfollows => ⟨hfact h.1 hsame hfollows,
      fun value heq => hknown value (h.2 value heq) hsame hfollows⟩
  · intro world oracle hinv hbefore _
    have hcall : plain (Call.read query) := rfl
    obtain ⟨haccount, hcore⟩ := performCall_plain hcall oracle world
    have hfollows : world.core.Follows
        (performCall deployment thread (.read query) oracle world).2.core := by
      rw [hcore]
      exact .refl world.core
    refine ⟨hfact hbefore haccount hfollows, fun value heq => ?_⟩
    have hvalue : value = query world.store := by
      simp only [performCall, World.orFail] at heq
      split at heq
      · cases heq
      · exact (Except.ok.inj heq).symm
    exact hknown value (hvalue ▸ hquery world hinv hbefore) haccount hfollows

/-- A thanks of the closing went out, and is not stored yet. -/
structure World.Thanking (number : Nat) (closing : Closing) (promised : Party → Prop)
    (party : Party) (world : World) : Prop where
  holds : world.finishing = some number
  thanked : ∀ message ∈ world.sent, message.template = .resolvedThanks →
    message ≠ thanksTo closing.session.sessionId party → world.Stored message
  reported : ∀ told ∈ world.told, told.notification = "final_report" →
    world.Reported told.disputeId
  unfinished : ¬world.Finished closing.dispute
  known : closing.Of world.core
  oneReport : world.OneReport closing
  kept : ∀ other, promised other ∨ other = party → thanksTo closing.session.sessionId other ∈ world.sent
  underway : (number, thanksTo closing.session.sessionId party) ∈ world.recording

/-- A thanks on its way to the store stays so while the account does. -/
theorem lasts_thanking {party : Party} :
    Lasts number (World.Thanking number closing promised party) := by
  intro world later h hsame hfollows
  refine
    { holds := (congrArg Account.finishing hsame).trans h.holds
      thanked := fun message hmem hthanks hne => (stored_of_account hsame hthanks).mpr
        (h.thanked message ((mem_sent_of_account hsame hthanks).mp hmem) hthanks hne)
      reported := fun told htold hreport => ?_
      unfinished := lasts_notFinished closing.dispute h.unfinished hsame hfollows
      known := h.known.mono hfollows
      oneReport := lasts_oneReport closing h.oneReport hsame hfollows
      kept := fun other hother => (mem_sent_of_account hsame rfl).mpr (h.kept other hother)
      underway := ?_ }
  · obtain ⟨event, hevent, hid, hkind⟩ :=
      h.reported told ((mem_told_of_account hsame hreport).mp htold) hreport
    have hother : event.kind.isOther = false := by simp [EventKind.isOther, hkind]
    exact ⟨event, (mem_events_of_account hsame hother).mpr hevent, hid, hkind⟩
  · have hrecording := congrArg ((number, thanksTo closing.session.sessionId party) ∈ ·)
      (congrArg Account.recording hsame)
    have hboth : (number, thanksTo closing.session.sessionId party) ∈ later.recording ↔
        (number, thanksTo closing.session.sessionId party) ∈ world.recording := by
      simpa [World.account, thanksTo] using hrecording
    exact hboth.mpr h.underway

/-- What a relay send of a thanks leaves its closing with. -/
def Thanked (number : Nat) (closing : Closing) (promised : Party → Prop) (party : Party)
    (result : Except String Unit) (world : World) : Prop :=
  match result with
  | .ok () => world.Thanking number closing promised party
  | .error _ => world.Working number closing promised

/-- The relay send of a thanks that did not go out before. -/
theorem thanked_sendEvent {party : Party} {world : World} {oracle : Oracle}
    (h : world.Working thread.number closing promised) :
    let done := performCall deployment thread
      (.sendEvent (thanksTo closing.session.sessionId party)) oracle world
    Thanked thread.number closing promised party done.1 done.2 := by
  simp only [performCall, World.sendEvent]
  split
  · exact { h with }
  · refine
      { holds := h.holds
        thanked := fun message hmem hthanks hne => ?_
        reported := h.reported
        unfinished := h.unfinished
        known := h.known
        oneReport := h.oneReport
        kept := fun other hother => ?_
        underway := List.mem_append_right _ List.mem_cons_self }
    · rcases List.mem_append.mp hmem with hold | hnew
      · exact h.thanked message hold hthanks
      · exact absurd (List.mem_singleton.mp hnew) hne
    · rcases hother with hpromised | rfl
      · exact List.mem_append_left _ (h.kept other hpromised)
      · exact List.mem_append_right _ List.mem_cons_self

/-- Storing the thanks leaves nothing to be stored. -/
theorem working_insertMessage {party : Party} {world : World} {oracle : Oracle} {new : NewMessage}
    (hinv : (closeExtension deployment hdistinct).news.inv world)
    (h : world.Thanking thread.number closing promised party)
    (hwritten : Written deployment thread.number new world) (hdirection : new.direction = .outbound)
    (hid : new.sessionId = closing.session.sessionId) (hparty : new.party = party)
    (hthanks : new.templateId = some .resolvedThanks)
    (hcond : accounted.call thread (.insertMessage new) oracle world = true) :
    (performCall deployment thread (.insertMessage new) oracle world).2.Working thread.number
      closing fun other => promised other ∨ other = party := by
  have hstored := hinv.2.stored_insertMessage hdistinct hinv.1
    (show Needs thread (.insertMessage new) world from hdirection) hwritten hcond hthanks
  obtain ⟨messages, hlater, hmessages⟩ :=
    performCall_insertMessage deployment thread new oracle world
  rw [hlater] at hstored ⊢
  have hsubset : world.store.messages ⊆ messages := by
    rcases hmessages with rfl | rfl
    · exact fun _ hrow => hrow
    · exact List.subset_append_left _ _
  refine
    { holds := h.holds
      thanked := fun message hmem hthanksOf => ?_
      reported := h.reported
      unfinished := h.unfinished
      known := h.known
      oneReport := h.oneReport
      kept := h.kept }
  by_cases hsame : message = thanksTo closing.session.sessionId party
  · rw [hsame, ← hid, ← hparty]
    exact hstored
  · exact (h.thanked message hmem hthanksOf hsame).mono hsubset

/-- The row of a closing thanks. -/
def Session.thanksRow (session : Session) (party : Party) (text lang : String) (createdAt : Int) :
    NewMessage :=
  { sessionId := session.sessionId
    direction := .outbound
    party := party
    templateId := some .resolvedThanks
    lang := some lang
    content := text
    attachments := 0
    innerEventId := .serbero createdAt text
    createdAt := createdAt }

/-- What sending a thanks leaves its closing with: nothing is left to be stored, and if it succeeded
the thanks went out. -/
def Sent (number : Nat) (closing : Closing) (promised : Party → Prop) (party : Party)
    (result : Except String Unit) (world : World) : Prop :=
  match result with
  | .ok () => world.Working number closing fun other => promised other ∨ other = party
  | .error _ => world.Working number closing promised

/-- Sending the thanks of a party whose thanks is not stored. -/
theorem sendAfterClose_spec {party : Party} {text lang : String}
    (hrendered : Rendered deployment .resolvedThanks text) :
    (closeExtension deployment hdistinct).news.Triple thread
      (fun world => world.Working thread.number closing promised ∧
        ¬world.Stored (thanksTo closing.session.sessionId party))
      (sendAfterClose closing.session ⟨party, text, .resolvedThanks, lang⟩)
      (Sent thread.number closing promised party) := by
  -- Other tasks leave it alone: only the holder of the lock writes thanks.
  have hfresh : Lasts thread.number fun world =>
      world.Working thread.number closing promised ∧
        ¬world.Stored (thanksTo closing.session.sessionId party) := by
    exact fun h hsame hfollows => ⟨lasts_working h.1 hsame hfollows,
      fun hstored => h.2 ((stored_of_account hsame rfl).mp hstored)⟩
  have hsettles : ∀ world : World,
      world.Working thread.number closing promised ∧
        ¬world.Stored (thanksTo closing.session.sessionId party) →
          world.Closes thread.number ∧ ¬world.Stored (thanksTo closing.session.sessionId party) ∧
            world.Unfinished closing.session.sessionId := by
    rintro world ⟨hworking, hnot⟩
    obtain ⟨hdispute, -, row, hrow, hbecomes⟩ := hworking.known
    refine ⟨hworking.toCloses, hnot, row, hrow, ?_⟩
    rw [hbecomes.disputeId, hdispute]
    exact hworking.unfinished
  refine Spec.Triple.bind _ (working_plain (show plain Call.wrap from rfl) hfresh
    fun hfact => hfact.1.holds) (fun createdAt => ?_) fun _ _ _ hfact => hfact.1
  have hgate : (closeExtension deployment hdistinct).news.Keeps thread (fun world =>
      world.Working thread.number closing promised ∧
        ¬world.Stored (thanksTo closing.session.sessionId party))
      (perform (.gate .closed (thanksTo closing.session.sessionId party))) := by
    refine triple_perform hfresh (fun hfact => hfact.1.holds) (fun world hfact _ =>
      ⟨rfl, hsettles world hfact⟩) (fun _ => hfresh) (fun hfact => hfact.1.holds) ?_
    intro world oracle _ hfact _
    refine hfresh hfact ?_ ?_
    · simp only [performCall, World.orFail, World.checkGate]
      split
      · rfl
      · split <;> rfl
    · simp only [performCall, World.orFail, World.checkGate]
      split
      · exact .refl _
      · split <;> exact .refl _
  refine Spec.Triple.bind _ hgate (fun _ => ?_) fun _ _ _ hfact => hfact.1
  have hsend : (closeExtension deployment hdistinct).news.Triple thread (fun world =>
      world.Working thread.number closing promised ∧
        ¬world.Stored (thanksTo closing.session.sessionId party))
      (perform (.sendEvent (thanksTo closing.session.sessionId party)))
      (Thanked thread.number closing promised party) := by
    refine triple_perform hfresh (fun hfact => hfact.1.holds) (fun world hfact _ =>
      hsettles world hfact) (fun result => ?_) (fun {result world} hafter => ?_)
      fun world oracle _ hfact _ => thanked_sendEvent hfact.1
    · cases result with
      | ok _ => exact lasts_thanking
      | error _ => exact lasts_working
    · cases result with
      | ok _ => exact World.Thanking.holds hafter
      | error _ => exact (World.Working.toCloses hafter).holds
  refine Spec.Triple.bind _ hsend (fun _ => ?_) fun _ _ _ hfact => hfact
  -- The gate let the thanks pass, so the row that is written now is the promised one.
  have hwritten : ∀ world : World,
      world.Thanking thread.number closing promised party →
        Written deployment thread.number (closing.session.thanksRow party text lang createdAt) world :=
    fun world h => ⟨.resolvedThanks, rfl, rfl, hrendered, fun _ => ⟨h.holds, h.underway⟩⟩
  have hstore : (closeExtension deployment hdistinct).news.Triple thread
      (World.Thanking thread.number closing promised party)
      (perform (.insertMessage (closing.session.thanksRow party text lang createdAt)))
      fun _ => World.Working thread.number closing
        fun other => promised other ∨ other = party :=
    triple_perform lasts_thanking World.Thanking.holds hwritten (fun _ => lasts_working)
      (fun hafter => hafter.holds) fun world oracle hinv h hcond =>
        working_insertMessage hinv h (hwritten world h) rfl rfl rfl rfl
          (Bool.and_eq_true_iff.mp hcond).1
  refine Spec.Triple.bind _ hstore (fun _ => ?_) fun _ _ _ hfact => hfact.weaken fun _ => Or.inl
  exact fun _ _ h => fun _ hrely _ => lasts_working h (hrely.2 h.holds) hrely.1.follows.core

/-- What a step of a closing ends with: its facts, or nothing promised. -/
def Ends {α : Type} (number : Nat) (closing : Closing) (facts : α → World → Prop)
    (result : Except String α) (world : World) : Prop :=
  match result with
  | .ok value => facts value world
  | .error _ => world.Working number closing fun _ => False

/-- A value a step of a closing ends with. -/
theorem triple_done {α : Type} {value : α} {before : World → Prop}
    {after : Except String α → World → Prop} (hafter : Lasts thread.number (after (.ok value)))
    (hholds : ∀ {world}, after (.ok value) world → world.finishing = some thread.number)
    (hbefore : ∀ world, (closeExtension deployment hdistinct).news.inv world → before world →
      after (.ok value) world) :
    (closeExtension deployment hdistinct).news.Triple thread before (done value) after :=
  .done (fun hend hrely => hafter hend (hrely.2 (hholds hend)) hrely.1.follows.core) hbefore

/-- A failure a step of a closing ends with. -/
theorem triple_raise {α : Type} {failure : String} {before : World → Prop}
    {facts : α → World → Prop}
    (hbefore : ∀ world, (closeExtension deployment hdistinct).news.inv world → before world →
      world.Working thread.number closing fun _ => False) :
    (closeExtension deployment hdistinct).news.Triple thread before (raise failure)
      (Ends thread.number closing facts) :=
  .raise (fun hend hrely => lasts_working hend
    (hrely.2 (World.Working.toCloses hend).holds) hrely.1.follows.core) hbefore

/-- Once a party was thanked, the thanks of the others are still promised. -/
def Thanks (number : Nat) (closing : Closing) (promised : Party → Prop) (party : Party)
    (complete : Bool) : World → Prop :=
  World.Working number closing fun other => complete = true ∧ (promised other ∨ other = party)

/-- Thanking a party: it says `complete` only if the party was thanked, now or before. -/
theorem thank_spec (complete : Bool) (party : Party) :
    (closeExtension deployment hdistinct).news.Triple thread
      (World.Working thread.number closing fun other => complete = true ∧ promised other)
      (thank deployment closing.session complete party)
      (Ends thread.number closing (Thanks thread.number closing promised party)) := by
  let start := World.Working thread.number closing fun other => complete = true ∧ promised other
  have hread : (closeExtension deployment hdistinct).news.Triple thread start
      (received closing.session party .resolvedThanks) fun result world => start world ∧
        ∀ got, result = .ok got →
          (got = true ↔ world.Stored (thanksTo closing.session.sessionId party)) := by
    refine working_read lasts_working (fun h => h.holds) (fun got => lasts_stored _ _ got) ?_
    intro world _ _
    simp [World.Stored, Store.listMessages, thanksTo, and_assoc]
  refine hread.bind _ (fun got => ?_) fun _ world _ h => h.1.weaken fun _ hfalse => hfalse.elim
  split
  · next hgot =>
    refine triple_done lasts_working (fun h => h.holds) fun world hinv hbefore => ?_
    -- What is stored went out.
    obtain ⟨row, hrow, hid, hsent⟩ := (hbefore.2 got rfl).mp hgot
    have hmem := hinv.2.stored row hrow party hsent
    rw [hid] at hmem
    refine { hbefore.1 with kept := fun other hother => ?_ }
    rcases hother.2 with hpromised | rfl
    · exact hbefore.1.kept other ⟨hother.1, hpromised⟩
    · exact hmem
  · next hgot =>
    have hsend : (closeExtension deployment hdistinct).news.Triple thread
        (fun world => start world ∧ ¬world.Stored (thanksTo closing.session.sessionId party))
        (do
          let message ← renderFor deployment closing.session party .resolvedThanks false
          sendAfterClose closing.session message)
        (Sent thread.number closing (fun other => complete = true ∧ promised other) party) := by
      cases htext : deployment.render (languageOf deployment closing.session party)
          .resolvedThanks false closing.session.amount with
      | ok text =>
        have hrender : renderFor deployment closing.session party .resolvedThanks false = done
            ⟨party, text, .resolvedThanks, languageOf deployment closing.session party⟩ := by
          simp only [renderFor, htext]
          rfl
        rw [hrender]
        exact sendAfterClose_spec ⟨_, _, _, htext⟩
      | error failure =>
        have hrender : renderFor deployment closing.session party .resolvedThanks false =
            raise failure := by
          simp only [renderFor, htext]
          rfl
        rw [hrender]
        exact .raise (fun hend hrely => lasts_working hend
          (hrely.2 (World.Working.toCloses hend).holds) hrely.1.follows.core) fun _ _ h => h.1
    refine Spec.Triple.attempt_bind (hsend.consequence (fun world _ h => ⟨h.1, fun hstored => ?_⟩)
      fun _ _ _ h => h) fun sent => ?_
    · exact hgot ((h.2 got rfl).mpr hstored)
    · cases sent with
      | ok _ =>
        refine triple_done lasts_working (fun h => h.holds) fun world _ hsent => ?_
        exact World.Working.weaken hsent fun other hother =>
          hother.2.imp (fun hpromised => ⟨hother.1, hpromised⟩) id
      | error failure =>
        exact triple_done lasts_working (fun h => h.holds) fun world _ hsent =>
          World.Working.weaken hsent fun other hother => absurd hother.1 Bool.false_ne_true

/-- Thanking the parties: it says `true` of a self-resolved session only if both were thanked. -/
theorem thankParties_spec (ended : Outcome) :
    (closeExtension deployment hdistinct).news.Triple thread
      (World.Working thread.number closing fun _ => False)
      (thankParties deployment closing.session ended)
      (Ends thread.number closing fun complete =>
        World.Working thread.number closing fun _ => complete = true ∧ ended = .selfResolved) := by
  unfold thankParties
  split
  · next hended =>
    have hbuyer : (closeExtension deployment hdistinct).news.Triple thread
        (World.Working thread.number closing fun _ => true = true ∧ False)
        (thank deployment closing.session true .buyer)
        (Ends thread.number closing (Thanks thread.number closing (fun _ => False) .buyer)) :=
      thank_spec true .buyer
    refine Spec.Triple.bind _ (hbuyer.consequence
      (fun world _ h => h.weaken fun _ hnone => hnone.2) fun _ _ _ h => h) (fun complete => ?_)
        fun _ _ _ h => h
    refine Spec.Triple.bind _ (thank_spec complete .seller) (fun complete => ?_) fun _ _ _ h => h
    refine triple_done lasts_working (fun h => h.holds) fun world _ h =>
      World.Working.weaken h fun other hother => ⟨hother.1, ?_⟩
    cases other with
    | buyer => exact Or.inl (Or.inr rfl)
    | seller => exact Or.inr rfl
  · next hended =>
    exact triple_done lasts_working (fun h => h.holds) fun world _ h =>
      h.weaken fun _ hboth => hended hboth.2

/-! ## The final report -/

/-- A closing that sends the report: it is the only one that did, and at most the last report it
sent is left to be recorded. -/
structure World.Reporting (number : Nat) (closing : Closing) (promised : Party → Prop)
    (awaiting : Prop) (delivered : Nat) (world : World) : Prop where
  first : closing.reported = false
  holds : world.finishing = some number
  thanked : ∀ message ∈ world.sent, message.template = .resolvedThanks → world.Stored message
  reported : ∀ told ∈ world.told, told.notification = "final_report" →
    world.Reported told.disputeId ∨ (awaiting ∧ told.disputeId = closing.dispute)
  current : ∀ told ∈ world.told, told.notification = "final_report" →
    told.disputeId = closing.dispute → told.closing = world.closings
  unfinished : ¬world.Finished closing.dispute
  known : closing.Of world.core
  kept : ∀ party, promised party → thanksTo closing.session.sessionId party ∈ world.sent
  delivered : 0 < delivered → world.ReportTold closing.dispute

/-- What a closing knows of its reports lasts with the account. -/
theorem lasts_reporting {awaiting : Prop} {delivered : Nat} :
    Lasts number (World.Reporting number closing promised awaiting delivered) := by
  intro world later h hsame hfollows
  refine
    { first := h.first
      holds := (congrArg Account.finishing hsame).trans h.holds
      thanked := fun message hmem hthanks => (stored_of_account hsame hthanks).mpr
        (h.thanked message ((mem_sent_of_account hsame hthanks).mp hmem) hthanks)
      reported := fun told htold hreport => ?_
      current := fun told htold hreport hdispute => ?_
      unfinished := lasts_notFinished closing.dispute h.unfinished hsame hfollows
      known := h.known.mono hfollows
      kept := fun party hpromised => (mem_sent_of_account hsame rfl).mpr (h.kept party hpromised)
      delivered := fun hpos => lasts_reportTold _ (h.delivered hpos) hsame hfollows }
  · refine (h.reported told ((mem_told_of_account hsame hreport).mp htold) hreport).imp ?_ id
    rintro ⟨event, hevent, hid, hkind⟩
    have hother : event.kind.isOther = false := by simp [EventKind.isOther, hkind]
    exact ⟨event, (mem_events_of_account hsame hother).mpr hevent, hid, hkind⟩
  · rw [show later.closings = world.closings from congrArg Account.closings hsame]
    exact h.current told ((mem_told_of_account hsame hreport).mp htold) hreport hdispute

/-- With its reports recorded, nothing is left to be stored. -/
theorem World.Reporting.working {delivered : Nat} {world : World}
    (h : world.Reporting number closing promised False delivered) :
    world.Working number closing promised :=
  { holds := h.holds
    thanked := h.thanked
    reported := fun told htold hreport => (h.reported told htold hreport).resolve_right
      fun hawaiting => hawaiting.1
    unfinished := h.unfinished
    known := h.known
    oneReport := by
      rw [World.OneReport, h.first]
      exact h.current
    kept := h.kept }

/-- What telling a solver leaves a closing with. -/
def Told.Leaves (number : Nat) (closing : Closing) (promised : Party → Prop) (delivered : Nat)
    (result : Except String Unit) : World → Prop :=
  match result with
  | .ok () => World.Reporting number closing promised True (delivered + 1)
  | .error _ => World.Reporting number closing promised False delivered

/-- Telling a solver the final report. -/
theorem sendDm_leaves {delivered : Nat} {solver : Nat} {world : World} {oracle : Oracle}
    (h : world.Reporting thread.number closing promised False delivered) :
    let done := performCall deployment thread (.sendDm solver closing.dispute "final_report") oracle
      world
    Told.Leaves thread.number closing promised delivered done.1 done.2 := by
  simp only [performCall, World.orFail]
  split
  · exact h
  · refine
      { first := h.first
        holds := h.holds
        thanked := h.thanked
        reported := fun told htold hreport => ?_
        current := fun told htold hreport hdispute => ?_
        unfinished := h.unfinished
        known := h.known
        kept := h.kept
        delivered := fun _ => ⟨_, List.mem_append_right _ List.mem_cons_self, rfl, rfl⟩ }
    · rcases List.mem_append.mp htold with hold | hnew
      · exact Or.inl ((h.reported told hold hreport).resolve_right fun hawaiting => hawaiting.1)
      · rw [List.mem_singleton.mp hnew]
        exact Or.inr ⟨trivial, rfl⟩
    · rcases List.mem_append.mp htold with hold | hnew
      · exact h.current told hold hreport hdispute
      · rw [List.mem_singleton.mp hnew]

/-- Recording what became of the report to a solver. -/
theorem append_reporting {delivered : Nat} {kind : EventKind} {awaiting : Prop} {now : Int}
    {world : World} {oracle : Oracle}
    (h : world.Reporting thread.number closing promised awaiting delivered)
    (hfinish : kind.isFinish = false) (hreport : awaiting → kind.isReport = true)
    (hcond : accounted.call thread (.append ⟨closing.dispute, none, kind, now⟩) oracle world =
      true) :
    (performCall deployment thread (.append ⟨closing.dispute, none, kind, now⟩) oracle
      world).2.Reporting thread.number closing promised False delivered := by
  have hfails : awaiting → oracle.fails = none := by
    intro hawaiting
    change (oracle.fails.isNone || !kind.isReport) = true at hcond
    simpa [hreport hawaiting] using hcond
  change (world.orFail oracle (.ok (), world.withStore (world.store.append _))).2.Reporting _ _ _ _ _
  unfold World.orFail
  split
  · next failure heq =>
    refine { h with reported := fun told htold hfinal => ?_ }
    refine (h.reported told htold hfinal).imp id fun hawaiting => ?_
    rw [hfails hawaiting.1] at heq
    cases heq
  · refine { h with
      reported := fun told htold hfinal => Or.inl ?_
      unfinished := ?_ }
    · rcases h.reported told htold hfinal with hreported | ⟨hawaiting, hdispute⟩
      · exact hreported.mono (List.prefix_append _ _)
      · exact ⟨_, List.mem_append_right _ List.mem_cons_self, hdispute.symm, hreport hawaiting⟩
    · rintro ⟨event, hevent, hid, hkind⟩
      rcases List.mem_append.mp hevent with hold | hnew
      · exact h.unfinished ⟨event, hold, hid, hkind⟩
      · rw [List.mem_singleton.mp hnew] at hkind
        exact absurd hkind (by simp [hfinish])

/-- What the loop over the solvers keeps, of the count it carries. -/
def Tried (number : Nat) (closing : Closing) (promised : Party → Prop)
    (result : Except String (Nat × Option String)) : World → Prop :=
  Ends number closing (fun carried => World.Reporting number closing promised False carried.1) result

/-- Recording what became of the report to a solver, and going on. -/
theorem recordReport_spec {awaiting : Prop} {kind : EventKind} {delivered : Nat}
    (hfinish : kind.isFinish = false) (hreport : awaiting ↔ kind.isReport = true)
    (hpos : awaiting → 0 < delivered) (failed : Option String) (now : Int) :
    (closeExtension deployment hdistinct).news.Triple thread
      (World.Reporting thread.number closing promised awaiting delivered)
      ((perform (.append ⟨closing.dispute, none, kind, now⟩)).attempt.bind fun recorded =>
        match recorded with
        | .ok () => (done (delivered, failed) : Daemon _)
        | .error failure => done (delivered, some (failed.getD failure)))
      (Tried thread.number closing promised) := by
  have happend : (closeExtension deployment hdistinct).news.Triple thread
      (World.Reporting thread.number closing promised awaiting delivered)
      (perform (.append ⟨closing.dispute, none, kind, now⟩))
      fun _ => World.Reporting thread.number closing promised False delivered := by
    refine triple_perform lasts_reporting (fun h => h.holds) (fun world h => ⟨fun hkind => ?_,
      fun hkind => ?_⟩) (fun _ => lasts_reporting) (fun h => h.holds) ?_
    · have hawaiting := hreport.mpr hkind
      exact ⟨h.holds, h.delivered (hpos hawaiting)⟩
    · rw [show kind.isFinish = true from hkind] at hfinish
      cases hfinish
    · exact fun world oracle _ h hcond =>
        append_reporting h hfinish hreport.mp (Bool.and_eq_true_iff.mp hcond).1
  refine Spec.Triple.attempt_bind happend fun recorded => ?_
  cases recorded <;> exact triple_done lasts_reporting (fun h => h.holds) fun _ _ h => h

/-- Telling the solvers: it counts a delivery only if some solver got the report. -/
theorem notifySolvers_spec (solvers : List Solver) (now : Int) :
    (closeExtension deployment hdistinct).news.Triple thread
      (World.Reporting thread.number closing promised False 0)
      (notifySolvers solvers closing.dispute "final_report" now)
      (Ends thread.number closing (World.Reporting thread.number closing promised False)) := by
  have htell : ∀ (carried : Nat × Option String) (solver : Solver),
      (closeExtension deployment hdistinct).news.Triple thread
        (World.Reporting thread.number closing promised False carried.1)
        (perform (.sendDm solver.pubkey closing.dispute "final_report"))
        (Told.Leaves thread.number closing promised carried.1) := by
    intro carried solver
    refine triple_perform lasts_reporting (fun h => h.holds) (fun world h _ =>
      ⟨h.holds, h.unfinished, h.current⟩) (fun result => ?_) (fun {result _} hafter => ?_)
        fun world oracle _ h _ => sendDm_leaves h
    · cases result <;> exact lasts_reporting
    · cases result <;> exact World.Reporting.holds hafter
  -- Each solver in turn; a failure to reach one is carried along and raised at the end.
  refine Spec.Triple.bind (Tried thread.number closing promised) ?_ (fun result => ?_)
    fun _ _ _ h => h
  · show (closeExtension deployment hdistinct).news.Triple thread
      (Tried thread.number closing promised (.ok (0, none))) _ _
    have hstable : ∀ {carried : Nat × Option String} {world later : World},
        Tried thread.number closing promised (.ok carried) world →
          (closeExtension deployment hdistinct).news.rely thread world later →
            Tried thread.number closing promised (.ok carried) later :=
      fun h hrely => lasts_reporting h (hrely.2 (World.Reporting.holds h)) hrely.1.follows.core
    -- What the loop carries is how many were told, and the first record that failed.
    refine Spec.Triple.foldEach hstable (fun carried solver _ => ?_) (0, none)
    refine Spec.Triple.attempt_bind (htell carried solver) fun sent => ?_
    cases sent with
    | ok _ =>
      exact recordReport_spec rfl ⟨fun _ => rfl, fun _ => trivial⟩ (fun _ => Nat.succ_pos _)
        carried.2 now
    | error _ =>
      exact recordReport_spec rfl ⟨False.elim, Bool.noConfusion⟩ False.elim carried.2 now
  · obtain ⟨delivered, failed⟩ := result
    cases failed with
    | none => exact triple_done lasts_reporting (fun h => h.holds) fun _ _ h => h
    | some failure =>
      exact triple_raise fun _ _ h => (World.Reporting.working h).weaken fun _ => False.elim

/-- Sending the report, unless it was sent: it says `true` only if some solver got it. -/
theorem sendReport_spec {history : List Event} (hreported : history.any Event.isReport = closing.reported)
    (now : Int) :
    (closeExtension deployment hdistinct).news.Triple thread
      (World.Working thread.number closing promised)
      (sendReport deployment closing.dispute history now)
      (Ends thread.number closing fun reported world =>
        world.Working thread.number closing promised ∧
          (reported = true → world.ReportTold closing.dispute)) := by
  have hlasts : ∀ reported : Bool, Lasts thread.number fun world =>
      world.Working thread.number closing promised ∧
        (reported = true → world.ReportTold closing.dispute) :=
    fun reported world later h hsame hfollows => ⟨lasts_working h.1 hsame hfollows,
      fun htrue => lasts_reportTold _ (h.2 htrue) hsame hfollows⟩
  unfold sendReport
  rw [hreported]
  split
  -- The report went out in an earlier run of this closing.
  · next hbefore =>
    refine triple_done (hlasts true) (fun h => h.1.holds) fun world _ h => ⟨h, fun _ => ?_⟩
    have hone := h.oneReport
    rwa [World.OneReport, if_pos hbefore] at hone
  · next hbefore =>
    have hnotify : (closeExtension deployment hdistinct).news.Triple thread
        (World.Reporting thread.number closing promised False 0)
        (notifySolvers (recipients deployment.solvers) closing.dispute "final_report" now)
        (Ends thread.number closing (World.Reporting thread.number closing promised False)) :=
      notifySolvers_spec _ now
    refine Spec.Triple.bind _ (hnotify.consequence (fun world _ h => ?_) fun _ _ _ h => h)
      (fun delivered => ?_) fun _ _ _ h => h
    -- Nothing was told of it so far, so the count starts at zero.
    · have hone := h.oneReport
      rw [World.OneReport, if_neg hbefore] at hone
      exact
        { first := by simpa using hbefore
          holds := h.holds
          thanked := h.thanked
          reported := fun told htold hreport => Or.inl (h.reported told htold hreport)
          current := hone
          unfinished := h.unfinished
          known := h.known
          kept := h.kept
          delivered := fun hpos => absurd hpos (Nat.lt_irrefl 0) }
    · refine triple_done (hlasts _) (fun h => h.1.holds) fun world _ h =>
        ⟨World.Reporting.working h, fun hpos => World.Reporting.delivered h ?_⟩
      simpa using hpos

/-! ## A whole closing -/

/-- The closing looks for the event that finished the dispute. -/
theorem any_isFinished {world : World} {dispute : DisputeId} :
    (world.store.listEvents dispute).any Store.isFinished = true ↔ world.Finished dispute := by
  simp only [World.Finished, Store.listEvents, List.any_eq_true, List.mem_filter, beq_iff_eq,
    and_assoc]
  rfl

/-- It looks for the report on record. -/
theorem any_isReport {world : World} {dispute : DisputeId} :
    (world.store.listEvents dispute).any Event.isReport = true ↔ world.Reported dispute := by
  simp only [World.Reported, Store.listEvents, List.any_eq_true, List.mem_filter, beq_iff_eq,
    and_assoc]
  rfl

/-- What a closing reads of its dispute. -/
theorem working_of_read {dispute : DisputeId} {byParties : Bool} {session : Session} {world : World}
    (hinv : (closeExtension deployment hdistinct).news.inv world) (hcloses : world.Closes number)
    (hresolved : world.core.ResolvedBy dispute byParties)
    (hlatest : world.store.latestForDispute dispute = some session)
    (hfinished : (world.store.listEvents dispute).any Store.isFinished = false) :
    world.Working number ⟨dispute, session, byParties,
      (world.store.listEvents dispute).any Event.isReport⟩ fun _ => False := by
  obtain ⟨hmem, hdispute⟩ := mem_of_latestForDispute hlatest
  have hsession := hinv.1.getElem?_of_mem hmem
  refine
    { toCloses := hcloses
      unfinished := ?_
      known := ⟨hdispute, hresolved, session, hsession, .refl session⟩
      oneReport := ?_
      kept := fun _ hnone => hnone.elim }
  · intro hbefore
    rw [any_isFinished.mpr hbefore] at hfinished
    cases hfinished
  · unfold World.OneReport
    split
    · next hreported =>
      obtain ⟨event, hevent, rfl, hkind⟩ := any_isReport.mp hreported
      exact hinv.2.reports event hevent hkind
    · next hreported =>
      -- What was told is on record, so no solver was told.
      intro told htold hreport htoldDispute
      have hrecorded := hcloses.reported told htold hreport
      rw [htoldDispute] at hrecorded
      exact absurd (any_isReport.mpr hrecorded) hreported

/-- Recording an event leaves what is stored stored. -/
theorem closes_append {new : NewEvent} {world : World} {oracle : Oracle}
    (h : world.Closes number) :
    (performCall deployment thread (.append new) oracle world).2.Closes number := by
  change (world.orFail oracle (.ok (), world.withStore (world.store.append new))).2.Closes number
  unfold World.orFail
  split
  · exact h
  · exact ⟨h.holds, h.thanked, fun told htold hreport =>
      (h.reported told htold hreport).mono (List.prefix_append _ _)⟩

/-- The end of a closing whose thanks and report went out. -/
theorem complete_of_working {closing : Closing} {world : World}
    (hworking : world.Working number closing fun _ =>
      outcome closing.session closing.byParties = .selfResolved)
    (htold : world.ReportTold closing.dispute) (status : DisputeStatus) (now : Int) :
    world.Complete (Store.eventRow world.store
      ⟨closing.dispute, some closing.session.sessionId, .finished status, now⟩) := by
  obtain ⟨hdispute, hresolved, later, hlater, hbecomes⟩ := hworking.known
  exact ⟨htold, closing.session.sessionId, later, closing.byParties, rfl, hlater,
    hbecomes.disputeId.trans hdispute, hresolved, fun hended party => hworking.kept party (hbecomes.outcome hended)⟩

/-- A closing keeps the lock, with nothing left to be stored when it ends. -/
theorem closeResolved_spec (dispute : DisputeId) (status : DisputeStatus) (byParties : Bool)
    (now : Int) :
    (closeExtension deployment hdistinct).news.Triple thread
      (fun world => world.Closes thread.number ∧ world.core.ResolvedBy dispute byParties)
      (closeResolved deployment dispute status byParties now)
      fun _ => World.Closes thread.number := by
  let begun := fun world : World =>
    world.Closes thread.number ∧ world.core.ResolvedBy dispute byParties
  let found := fun (read : Option Session × List Event) (world : World) => ∀ session,
    read.1 = some session → read.2.any Store.isFinished = false →
      world.Working thread.number ⟨dispute, session, byParties, read.2.any Event.isReport⟩
        fun _ => False
  -- The session and its history are read at one instant: what they say is lasting.
  have hread : (closeExtension deployment hdistinct).news.Triple thread begun
      (perform (.read fun store => (store.latestForDispute dispute, store.listEvents dispute)))
      fun result world => begun world ∧ ∀ read, result = .ok read → found read world := by
    refine working_read (fun h hsame hfollows => ⟨lasts_closes h.1 hsame hfollows,
      h.2.mono hfollows⟩) (fun h => h.1.holds) (fun read world later h hsame hfollows session
        hlatest hfinished => lasts_working (h session hlatest hfinished) hsame hfollows) ?_
    exact fun world hinv h session hlatest hfinished =>
      working_of_read hinv h.1 h.2 hlatest hfinished
  refine Spec.Triple.bind _ hread (fun read => ?_) fun _ _ _ h => h.1.1
  obtain ⟨latest, history⟩ := read
  cases latest with
  | none =>
    exact triple_done lasts_closes (fun h => h.holds) fun _ _ h => h.1.1
  | some session =>
    simp only []
    -- A session whose end is on record needs nothing more.
    split
    · exact triple_done lasts_closes (fun h => h.holds) fun _ _ h => h.1.1
    · next hfinished =>
      let closing : Closing := ⟨dispute, session, byParties, history.any Event.isReport⟩
      have hclose : (closeExtension deployment hdistinct).news.Triple thread
          (World.Working thread.number closing fun _ => False)
          (perform (.closeChat session.sessionId))
          fun _ => World.Working thread.number closing fun _ => False :=
        working_plain (show plain (.closeChat session.sessionId) from trivial) lasts_working
          fun h => h.holds
      refine Spec.Triple.bind _ (hclose.consequence (fun world _ h => ?_) fun _ _ _ h => h)
        (fun _ => ?_) fun _ _ _ h => h.toCloses
      · exact h.2 _ rfl session rfl (by simpa using hfinished)
      refine Spec.Triple.bind _ (thankParties_spec _) (fun thanked => ?_) fun _ _ _ h =>
        World.Working.toCloses h
      refine Spec.Triple.bind _ (sendReport_spec rfl now) (fun reported => ?_) fun _ _ _ h =>
        World.Working.toCloses h
      -- The end is recorded only once both parties were thanked and the report was told.
      split
      · next hcomplete =>
        rw [Bool.and_eq_true] at hcomplete
        have hfinish : (closeExtension deployment hdistinct).news.Triple thread
            (fun world => world.Working thread.number closing (fun _ =>
              outcome session byParties = .selfResolved) ∧ world.ReportTold dispute)
            (perform (.append ⟨dispute, some session.sessionId, .finished status, now⟩))
            fun _ => World.Closes thread.number := by
          refine triple_perform (fun h hsame hfollows => ⟨lasts_working h.1 hsame hfollows,
            lasts_reportTold _ h.2 hsame hfollows⟩) (fun h => h.1.holds) (fun world h =>
              ⟨fun hkind => absurd hkind Bool.false_ne_true, fun _ => ⟨h.1.holds, h.1.unfinished,
                complete_of_working h.1 h.2 status now⟩⟩) (fun _ => lasts_closes)
                  (fun h => h.holds) fun world oracle _ h _ => closes_append h.1.toCloses
        refine Spec.Triple.bind _ (hfinish.consequence (fun world _ h => ?_) fun _ _ _ h => h)
          (fun _ => triple_done lasts_closes (fun h => h.holds) fun _ _ h => h) fun _ _ _ h => h
        exact ⟨World.Working.weaken h.1 fun _ hended => ⟨hcomplete.1, hended⟩, h.2 hcomplete.2⟩
      · exact triple_done lasts_closes (fun h => h.holds) fun _ _ h => h.1.toCloses

end

end Serbero
