import Serbero.Runtime.Ledger
import Serbero.Runtime.Vocabulary

/-! # The account of the closings

A closing is tried until all of it went out, and each try skips what an earlier one stored. Under the
lock of closings, what was sent and what was stored agree, but for the one message under way. -/

namespace Serbero

open Pool

variable {deployment : Deployment} {thread : Thread Task}

/-- A `notification_sent` of the final report. -/
def EventKind.isReport : EventKind → Bool
  | .notificationSent _ notification => notification == "final_report"
  | _ => false

/-- The end of a closing. -/
def EventKind.isFinish : EventKind → Bool
  | .finished _ => true
  | _ => false

/-- No final report or closing thanks that went out is left without its record: storing one does not
fail, and the process does not end before it is stored. -/
def accounted : Condition Call Task Oracle Happening World where
  call _ request oracle _ :=
    match request with
    | .insertMessage new => oracle.fails.isNone || new.templateId != some .resolvedThanks
    | .append new => oracle.fails.isNone || !new.kind.isReport
    | _ => true
  launch _ _ _ := true
  happen _ _ := true
  restart _ world :=
    (world.recording.all fun entry => entry.2.template != .resolvedThanks) &&
      world.told.all fun told => told.notification != "final_report" ||
        world.store.events.any fun event =>
          event.disputeId == told.disputeId && event.kind.isReport

/-- In no language is the closing thanks the text of another template. -/
def Deployment.DistinctThanks (deployment : Deployment) : Prop :=
  ∀ template text, Rendered deployment .resolvedThanks text →
    Rendered deployment template text → template = .resolvedThanks

/-- The thanks a party gets when a dispute was resolved by its parties. -/
def thanksTo (id : SessionId) (party : Party) : Passed := ⟨id, party, .resolvedThanks⟩

namespace World

variable (world : World)

/-- The message is stored. -/
def Stored (message : Passed) : Prop :=
  ∃ row ∈ world.store.messages, row.sessionId = message.sessionId ∧
    row.isSent message.party message.template = true

/-- A final report of the dispute is on record. -/
def Reported (id : DisputeId) : Prop :=
  ∃ event ∈ world.store.events, event.disputeId = id ∧ event.kind.isReport = true

/-- The closing of the dispute is finished. -/
def Finished (id : DisputeId) : Prop :=
  ∃ event ∈ world.store.events, event.disputeId = id ∧ event.kind.isFinish = true

/-- Some solver got the final report of the dispute. -/
def ReportTold (id : DisputeId) : Prop :=
  ∃ told ∈ world.told, told.notification = "final_report" ∧ told.disputeId = id

end World

/-- The session was closed by its parties' own resolution, and never handed off. -/
def Core.SelfResolved (core : Core) (id : SessionId) : Prop :=
  ∃ session, core.sessions[id]? = some session ∧ session.state = .closed ∧
    session.handoffReason = none ∧ core.ResolvedBy session.disputeId true

/-- A session resolved by its parties stays so. -/
theorem Core.SelfResolved.mono {core core' : Core} {id : SessionId} (h : core.SelfResolved id)
    (hfollows : core.Follows core') : core'.SelfResolved id := by
  obtain ⟨session, hsession, hclosed, hreason, hresolved⟩ := h
  obtain ⟨later, hlater, hbecomes, -⟩ := hfollows.sessions id session hsession
  obtain ⟨hstate, hsame⟩ := hbecomes.ended (by rw [hclosed]; rfl)
  refine ⟨later, hlater, hstate.trans hclosed, hsame.trans hreason, ?_⟩
  rw [hbecomes.disputeId]
  exact hresolved.mono hfollows

/-- What a finished closing leaves: the report, and both thanks where the parties resolved the
dispute themselves. -/
def World.Complete (world : World) (event : Event) : Prop :=
  world.ReportTold event.disputeId ∧ ∃ id session byParties, event.sessionId = some id ∧
    world.core.sessions[id]? = some session ∧ session.disputeId = event.disputeId ∧
      world.core.ResolvedBy event.disputeId byParties ∧
        (outcome session byParties = .selfResolved → ∀ party, thanksTo id party ∈ world.sent)

/-- What went out in the closings agrees with what is stored. -/
structure World.Accounts (deployment : Deployment) (world : World) : Prop where
  /-- A message Serbero sent is the text of its template. -/
  written : ∀ row ∈ world.store.messages, row.direction = .outbound → ∃ template,
    row.templateId = some template ∧ row.innerEventId = .serbero row.createdAt row.content ∧
      Rendered deployment template row.content
  recording : ∀ entry ∈ world.recording, entry.2 ∈ world.sent
  stored : ∀ row ∈ world.store.messages, ∀ party, row.isSent party .resolvedThanks = true →
    thanksTo row.sessionId party ∈ world.sent
  once : ∀ id party, world.sent.count (thanksTo id party) ≤ 1
  thanked : ∀ message ∈ world.sent, message.template = .resolvedThanks → world.Stored message ∨
    ∃ number, world.finishing = some number ∧ (number, message) ∈ world.recording
  toSend : ∀ entry ∈ world.sending, entry.2.template = .resolvedThanks →
    world.core.SelfResolved entry.2.sessionId
  resolved : ∀ message ∈ world.sent, message.template = .resolvedThanks →
    world.core.SelfResolved message.sessionId
  reports : ∀ event ∈ world.store.events, event.kind.isReport = true →
    world.ReportTold event.disputeId
  reported : ∀ told ∈ world.told, told.notification = "final_report" →
    world.Reported told.disputeId ∨ (world.finishing.isSome ∧ told.closing = world.closings)
  oneReport : ∀ told ∈ world.told, ∀ other ∈ world.told, told.notification = "final_report" →
    other.notification = "final_report" → told.disputeId = other.disputeId →
      told.closing = other.closing
  finishedOnce : ∀ id, world.store.events.countP (fun event =>
    event.disputeId == id && event.kind.isFinish) ≤ 1
  finished : ∀ event ∈ world.store.events, event.kind.isFinish = true → world.Complete event

/-- The thread holds the lock of closings, and nothing that went out is left to be stored. -/
structure World.Closes (number : Nat) (world : World) : Prop where
  holds : world.finishing = some number
  thanked : ∀ message ∈ world.sent, message.template = .resolvedThanks → world.Stored message
  reported : ∀ told ∈ world.told, told.notification = "final_report" →
    world.Reported told.disputeId

/-- What the thread that holds the lock of closings may rely on. -/
structure Account where
  finishing : Option Nat
  closings : Nat
  thanks : List Message
  sent : List Passed
  recording : List (Nat × Passed)
  told : List Told
  events : List Event

/-- A thanks Serbero sent. -/
def Message.isThanks (message : Message) : Bool :=
  message.direction == .outbound && message.templateId == some .resolvedThanks

/-- The account of the closings as the thread sees it. -/
def World.account (world : World) (number : Nat) : Account :=
  { finishing := world.finishing
    closings := world.closings
    thanks := world.store.messages.filter Message.isThanks
    sent := world.sent.filter fun message => message.template == .resolvedThanks
    recording := world.recording.filter fun entry =>
      entry.1 == number && entry.2.template == .resolvedThanks
    told := world.told.filter fun told => told.notification == "final_report"
    events := world.store.events.filter fun event => event.kind.isReport || event.kind.isFinish }

/-- The dispute of the session is not finished. -/
def World.Unfinished (world : World) (id : SessionId) : Prop :=
  ∃ session, world.core.sessions[id]? = some session ∧ ¬world.Finished session.disputeId

/-- A message is stored with the text of its template, and a closing thanks by the closing that sent
it. -/
def Written (deployment : Deployment) (number : Nat) (new : NewMessage) (world : World) : Prop :=
  ∃ template, new.templateId = some template ∧ new.innerEventId = .serbero new.createdAt new.content ∧
    Rendered deployment template new.content ∧
      (template = .resolvedThanks → world.finishing = some number ∧
        (number, thanksTo new.sessionId new.party) ∈ world.recording)

/-- What a closing must know before a call that counts. -/
def Settles (deployment : Deployment) (thread : Thread Task) {β : Type} (call : Call β)
    (world : World) : Prop :=
  match call with
  | .unlockFinishing => world.Closes thread.number
  | .gate rule message => message.template = .resolvedThanks → rule = .closed ∧
      world.Closes thread.number ∧ ¬world.Stored message ∧ world.Unfinished message.sessionId
  | .sendEvent message => message.template = .resolvedThanks → world.Closes thread.number ∧
      ¬world.Stored message ∧ world.Unfinished message.sessionId
  | .insertMessage new => Written deployment thread.number new world
  | .sendDm _ dispute notification => notification = "final_report" →
      world.finishing = some thread.number ∧ ¬world.Finished dispute ∧
        ∀ told ∈ world.told, told.notification = "final_report" → told.disputeId = dispute →
          told.closing = world.closings
  | .append new =>
    (new.kind.isReport = true → world.finishing = some thread.number ∧
      world.ReportTold new.disputeId) ∧
    (new.kind.isFinish = true → world.finishing = some thread.number ∧
      ¬world.Finished new.disputeId ∧ world.Complete (Store.eventRow world.store new))
  | _ => True

/-! ## What lasts -/

/-- A session that moved forward and still counts as resolved by its parties did before. -/
theorem Session.Becomes.outcome {session later : Session} (h : session.Becomes later)
    {byParties : Bool} (hended : Serbero.outcome later byParties = .selfResolved) :
    Serbero.outcome session byParties = .selfResolved := by
  obtain ⟨hnone, rfl⟩ := outcome_eq_selfResolved hended
  have hbefore : session.handoffReason = none := by
    cases hreason : session.handoffReason with
    | none => rfl
    | some reason =>
      rw [h.reason reason hreason] at hnone
      cases hnone
  unfold Serbero.outcome at hended ⊢
  rw [hnone] at hended
  rw [hbefore]
  simp only [Bool.not_true, Bool.or_false, decide_eq_true_eq] at hended ⊢
  rw [if_neg]
  intro hstate
  rw [(h.ended (by rw [hstate]; rfl)).1, if_pos hstate] at hended
  cases hended

namespace World

variable {world later : World}

/-- A stored message stays stored. -/
theorem Stored.mono {message : Passed} (h : world.Stored message)
    (hmessages : world.store.messages ⊆ later.store.messages) : later.Stored message := by
  obtain ⟨row, hrow, hsame⟩ := h
  exact ⟨row, hmessages hrow, hsame⟩

/-- A report on record stays there. -/
theorem Reported.mono {id : DisputeId} (h : world.Reported id)
    (hevents : world.store.events <+: later.store.events) : later.Reported id := by
  obtain ⟨event, hevent, hsame⟩ := h
  exact ⟨event, hevents.subset hevent, hsame⟩

/-- A report that was told stays told. -/
theorem ReportTold.mono {id : DisputeId} (h : world.ReportTold id)
    (htold : world.told ⊆ later.told) : later.ReportTold id := by
  obtain ⟨told, hmem, hsame⟩ := h
  exact ⟨told, htold hmem, hsame⟩

/-- What completed a closing is not undone. -/
theorem Complete.mono {event : Event} (h : world.Complete event) (htold : world.told ⊆ later.told)
    (hsent : world.sent ⊆ later.sent) (hcore : world.core.Follows later.core) :
    later.Complete event := by
  obtain ⟨htoldReport, id, session, byParties, hid, hsession, hdispute, hresolved, hthanks⟩ := h
  obtain ⟨found, hfound, hbecomes, -⟩ := hcore.sessions id session hsession
  exact ⟨htoldReport.mono htold, id, found, byParties, hid, hfound,
    hbecomes.disputeId.trans hdispute, hresolved.mono hcore, fun hended party => hsent (hthanks (hbecomes.outcome hended) party)⟩

end World

/-- A kind that neither reports nor finishes a closing. -/
def EventKind.isOther (kind : EventKind) : Bool := !kind.isReport && !kind.isFinish

/-- The reports and ends of closings on record, when other kinds of events are logged. -/
theorem Store.Logs.closings {a b : Store} (h : Store.Logs EventKind.isOther a b) {event : Event}
    (hevent : event ∈ b.events) (hkind : event.kind.isOther = false) : event ∈ a.events := by
  obtain ⟨more, heq, hmore⟩ := h
  rw [heq] at hevent
  rcases List.mem_append.mp hevent with hold | hnew
  · exact hold
  · rw [hmore event hnew] at hkind
    cases hkind

/-- Other events are no finished closings. -/
theorem Store.Logs.countP_finish {a b : Store} (h : Store.Logs EventKind.isOther a b)
    (id : DisputeId) :
    b.events.countP (fun event => event.disputeId == id && event.kind.isFinish) =
      a.events.countP fun event => event.disputeId == id && event.kind.isFinish := by
  rw [List.countP_eq_length_filter, List.countP_eq_length_filter, h.filter_eq]
  intro event hother
  simp only [EventKind.isOther, Bool.and_eq_true, Bool.not_eq_true'] at hother
  rw [hother.2, Bool.and_false]

namespace World.Accounts

variable {world later : World}

/-- A step that leaves the account of the closings alone. -/
theorem advance (h : world.Accounts deployment) (hcore : world.core.Follows later.core)
    (hlogs : Store.Logs EventKind.isOther world.store later.store)
    (hmessages : later.store.messages = world.store.messages)
    (hsending : later.sending ⊆ world.sending) (hrecording : later.recording = world.recording)
    (hsent : later.sent = world.sent) (htold : later.told = world.told)
    (hfinishing : later.finishing = world.finishing) (hclosings : later.closings = world.closings) :
    later.Accounts deployment where
  written := by rw [hmessages]; exact h.written
  recording := by rw [hrecording, hsent]; exact h.recording
  stored := by rw [hmessages, hsent]; exact h.stored
  once := by rw [hsent]; exact h.once
  thanked message hmem hthanks := by
    rw [hsent] at hmem
    rw [hfinishing, hrecording, World.Stored, hmessages]
    exact h.thanked message hmem hthanks
  toSend entry hentry hthanks := (h.toSend entry (hsending hentry) hthanks).mono hcore
  resolved message hmem hthanks := (h.resolved message (hsent ▸ hmem) hthanks).mono hcore
  reports event hevent hreport := by
    -- A new event of a closing would have been logged by its own call.
    refine (h.reports event (hlogs.closings hevent ?_) hreport).mono (by rw [htold]; exact fun _ h => h)
    rw [EventKind.isOther, hreport]
    rfl
  reported told hmem hreport := by
    rw [htold] at hmem
    rw [hfinishing, hclosings]
    exact (h.reported told hmem hreport).imp (fun hreported => hreported.mono hlogs.events) id
  oneReport := by rw [htold]; exact h.oneReport
  finishedOnce id := by
    rw [hlogs.countP_finish]
    exact h.finishedOnce id
  finished event hevent hfinish := by
    refine (h.finished event (hlogs.closings hevent ?_) hfinish).mono
      (by rw [htold]; exact fun _ h => h) (by rw [hsent]; exact fun _ h => h) hcore
    rw [EventKind.isOther, hfinish, Bool.and_comm]
    rfl

/-- The check of the gate: a closing thanks passes only while its session is self-resolved. -/
theorem gate (h : world.Accounts deployment) {rule : GateRule} {message : Passed} {oracle : Oracle}
    (hinv : world.core.Inv) (hneeds : Needs thread (.gate rule message) world)
    (hsettles : Settles deployment thread (.gate rule message) world) :
    (performCall deployment thread (.gate rule message) oracle world).2.Accounts deployment := by
  simp only [performCall, World.orFail, World.checkGate]
  split
  · exact h
  split
  · next hallows =>
    refine { h with toSend := fun entry hentry hthanks => ?_ }
    rcases List.mem_append.mp hentry with hold | hnew
    · exact h.toSend entry hold hthanks
    · rw [List.mem_singleton.mp hnew] at hthanks ⊢
      obtain ⟨rfl, -⟩ := hsettles hthanks
      obtain ⟨-, session, hsession, hresolved, hreason⟩ := hneeds
      rw [hinv.session_eq, hsession, Option.any_some] at hallows
      have hclosed : session.state = .closed := by simpa [GateRule.allows] using hallows
      exact ⟨session, hsession, hclosed, hreason hclosed, hresolved⟩
  · exact h

/-- The relay send: a closing thanks goes out once, and its thread has it to store. -/
theorem sendEvent (h : world.Accounts deployment) {message : Passed} {oracle : Oracle}
    (hneeds : Needs thread (.sendEvent message) world)
    (hsettles : Settles deployment thread (.sendEvent message) world) :
    (performCall deployment thread (.sendEvent message) oracle world).2.Accounts deployment := by
  have herase : ∀ entry ∈ world.sending.erase (thread.number, message), entry ∈ world.sending :=
    fun entry hentry => List.mem_of_mem_erase hentry
  simp only [performCall, World.sendEvent]
  split
  · exact { h with toSend := fun entry hentry => h.toSend entry (herase entry hentry) }
  · refine { h with
      recording := fun entry hentry => ?_
      stored := fun row hrow party hsent => List.mem_append_left _ (h.stored row hrow party hsent)
      once := fun id party => ?_
      thanked := fun other hother hthanks => ?_
      toSend := fun entry hentry => h.toSend entry (herase entry hentry)
      resolved := fun other hother hthanks => ?_
      finished := fun event hevent hfinish => (h.finished event hevent hfinish).mono
        (fun _ htold => htold) (List.subset_append_left _ _) (.refl _) }
    · rcases List.mem_append.mp hentry with hold | hnew
      · exact List.mem_append_left _ (h.recording entry hold)
      · rw [List.mem_singleton.mp hnew]
        exact List.mem_append_right _ List.mem_cons_self
    · rw [List.count_append]
      by_cases hsame : message = thanksTo id party
      · -- It was neither stored nor under way, so it did not go out before.
        subst hsame
        obtain ⟨hcloses, hnot, -⟩ := hsettles rfl
        rw [List.count_eq_zero_of_not_mem fun hmem => hnot (hcloses.thanked _ hmem rfl)]
        simp
      · rw [List.count_singleton, if_neg (by simpa using hsame)]
        exact h.once id party
    · rcases List.mem_append.mp hother with hold | hnew
      · refine (h.thanked other hold hthanks).imp id ?_
        rintro ⟨number, hfinishing, hrecording⟩
        exact ⟨number, hfinishing, List.mem_append_left _ hrecording⟩
      · rw [List.mem_singleton.mp hnew] at hthanks ⊢
        obtain ⟨hcloses, -⟩ := hsettles hthanks
        exact Or.inr ⟨_, hcloses.holds, List.mem_append_right _ List.mem_cons_self⟩
    · rcases List.mem_append.mp hother with hold | hnew
      · exact h.resolved other hold hthanks
      · rw [List.mem_singleton.mp hnew] at hthanks ⊢
        exact h.toSend _ hneeds hthanks

/-- Storing a closing thanks stores it: no other message has its text. -/
theorem stored_insertMessage (h : world.Accounts deployment) (hdistinct : deployment.DistinctThanks)
    (hinv : world.core.Inv) {new : NewMessage} {oracle : Oracle}
    (hneeds : Needs thread (.insertMessage new) world)
    (hsettles : Settles deployment thread (.insertMessage new) world)
    (hcond : accounted.call thread (.insertMessage new) oracle world = true)
    (hthanks : new.templateId = some .resolvedThanks) :
    (performCall deployment thread (.insertMessage new) oracle world).2.Stored
      (thanksTo new.sessionId new.party) := by
  have hdirection : new.direction = .outbound := hneeds
  obtain ⟨template, htemplate, hinner, hrendered, hunderway⟩ := hsettles
  rw [hthanks, Option.some.injEq] at htemplate
  subst htemplate
  have hfails : oracle.fails = none := by
    change (oracle.fails.isNone || new.templateId != some .resolvedThanks) = true at hcond
    simpa [hthanks] using hcond
  simp only [performCall, World.orFail, hfails]
  split
  · next failure hinsert =>
    -- The session of a message that went out is known.
    obtain ⟨session, hsession, -⟩ := h.resolved _ (h.recording _ (hunderway rfl).2) rfl
    unfold Store.insertMessageIfNew at hinsert
    split at hinsert
    · next hnone =>
      rw [show (world.endSending thread.number new).store = world.store from rfl,
        hinv.session_eq] at hnone
      rw [show world.core.sessions[new.sessionId]? = some session from hsession] at hnone
      cases hnone
    · split at hinsert <;> cases hinsert
  · next inserted store hinsert =>
    rcases (Store.insertMessageIfNew_eq_ok hinsert).2 with
      ⟨-, hsame, row, hrow, hid, hout, hparty, hinnerRow⟩ | ⟨-, hlater⟩
    · rw [hsame]
      obtain ⟨other, hother, hotherInner, hotherRendered⟩ :=
        h.written row hrow (hout.trans hdirection)
      have htext : row.content = new.content := by
        rw [hotherInner, hinner, InnerEventId.serbero.injEq] at hinnerRow
        exact hinnerRow.2
      rw [htext] at hotherRendered
      have hotherThanks := hdistinct other new.content hrendered hotherRendered
      refine ⟨row, hrow, hid, ?_⟩
      simp [Message.isSent, hout, hdirection, hparty, hother, hotherThanks, thanksTo]
    · rw [hlater]
      refine ⟨_, List.mem_append_right _ List.mem_cons_self, rfl, ?_⟩
      simp [Message.isSent, NewMessage.row, hdirection, hthanks, thanksTo]

/-- Storing an outbound message ends its sending. -/
theorem insertMessage (h : world.Accounts deployment) (hdistinct : deployment.DistinctThanks)
    (hinv : world.core.Inv) {new : NewMessage} {oracle : Oracle}
    (hneeds : Needs thread (.insertMessage new) world)
    (hsettles : Settles deployment thread (.insertMessage new) world)
    (hcond : accounted.call thread (.insertMessage new) oracle world = true) :
    (performCall deployment thread (.insertMessage new) oracle world).2.Accounts deployment := by
  have hstored := h.stored_insertMessage hdistinct hinv hneeds hsettles hcond
  obtain ⟨messages, hlater, hmessages⟩ :=
    performCall_insertMessage deployment thread new oracle world
  obtain ⟨template, htemplate, hinner, hrendered, hunderway⟩ := hsettles
  rw [hlater] at hstored ⊢
  have hsubset : world.store.messages ⊆ messages := by
    rcases hmessages with rfl | rfl
    · exact fun _ hrow => hrow
    · exact List.subset_append_left _ _
  -- A row of the later table is old, or the new one.
  have hcases : ∀ row ∈ messages, row ∈ world.store.messages ∨
      row = new.row (world.store.messages.length + 1) := by
    intro row hrow
    rcases hmessages with rfl | rfl
    · exact Or.inl hrow
    · exact (List.mem_append.mp hrow).imp id List.mem_singleton.mp
  refine { h with
    written := fun row hrow hout => ?_
    recording := fun entry hentry => h.recording entry (List.mem_of_mem_filter hentry)
    stored := fun row hrow party hsent => ?_
    thanked := fun message hmem hthanks => ?_ }
  · rcases hcases row hrow with hold | rfl
    · exact h.written row hold hout
    · exact ⟨template, htemplate, hinner, hrendered⟩
  · rcases hcases row hrow with hold | rfl
    · exact h.stored row hold party hsent
    · simp only [Message.isSent, NewMessage.row, Bool.and_eq_true, beq_iff_eq] at hsent
      rw [htemplate, Option.some.injEq] at hsent
      have hparty : new.party = party := hsent.1.2
      subst hparty
      exact h.recording _ (hunderway hsent.2).2
  · rcases h.thanked message hmem hthanks with hold | ⟨number, hfinishing, hrecording⟩
    · exact Or.inl (hold.mono hsubset)
    · by_cases hsame : number = thread.number ∧ message = ⟨new.sessionId, new.party, template⟩
      · -- The message that was under way is stored now.
        obtain ⟨-, rfl⟩ := hsame
        have hthanks : template = .resolvedThanks := hthanks
        subst hthanks
        exact Or.inl (hstored htemplate)
      · refine Or.inr ⟨number, hfinishing, List.mem_filter.mpr ⟨hrecording, ?_⟩⟩
        rw [htemplate]
        simpa [or_iff_not_imp_left] using hsame

/-- Telling a solver: a final report is told in one closing only. -/
theorem sendDm (h : world.Accounts deployment) {solver : Nat} {dispute : DisputeId}
    {notification : String} {oracle : Oracle}
    (hsettles : Settles deployment thread (.sendDm solver dispute notification) world) :
    (performCall deployment thread (.sendDm solver dispute notification) oracle
      world).2.Accounts deployment := by
  simp only [performCall, World.orFail]
  split
  · exact h
  · have hgrows : world.told ⊆
        world.told ++ [⟨world.closings, solver, dispute, notification⟩] :=
      List.subset_append_left _ _
    refine { h with
      reports := fun event hevent hreport => (h.reports event hevent hreport).mono hgrows
      reported := fun told htold hreport => ?_
      oneReport := fun told htold other hother hreport hreport' hdispute => ?_
      finished := fun event hevent hfinish => (h.finished event hevent hfinish).mono hgrows
        (fun _ hsent => hsent) (.refl _) }
    · rcases List.mem_append.mp htold with hold | hnew
      · exact h.reported told hold hreport
      · rw [List.mem_singleton.mp hnew] at hreport ⊢
        obtain ⟨hholds, -⟩ := hsettles hreport
        exact Or.inr ⟨by rw [hholds]; rfl, rfl⟩
    · rcases List.mem_append.mp htold with hold | hnew
      · rcases List.mem_append.mp hother with hold' | hnew'
        · exact h.oneReport told hold other hold' hreport hreport' hdispute
        · rw [List.mem_singleton.mp hnew'] at hreport' hdispute ⊢
          exact (hsettles hreport').2.2 told hold hreport hdispute
      · rw [List.mem_singleton.mp hnew] at hreport hdispute ⊢
        rcases List.mem_append.mp hother with hold' | hnew'
        · exact ((hsettles hreport).2.2 other hold' hreport' hdispute.symm).symm
        · rw [List.mem_singleton.mp hnew']

/-- Recording an event: a report that was told, or the end of a closing that is complete. -/
theorem append (h : world.Accounts deployment) {new : NewEvent} {oracle : Oracle}
    (hsettles : Settles deployment thread (.append new) world) :
    (performCall deployment thread (.append new) oracle world).2.Accounts deployment := by
  change (world.orFail oracle (.ok (), world.withStore (world.store.append new))).2.Accounts _
  unfold World.orFail
  split
  · exact h
  · have hevents : world.store.events <+: (world.store.append new).events :=
      List.prefix_append _ _
    refine { h with
      reports := fun event hevent hreport => ?_
      reported := fun told htold hreport =>
        (h.reported told htold hreport).imp (fun hreported => hreported.mono hevents) id
      finishedOnce := fun id => ?_
      finished := fun event hevent hfinish => ?_ }
    · rcases List.mem_append.mp hevent with hold | hnew
      · exact h.reports event hold hreport
      · rw [List.mem_singleton.mp hnew] at hreport ⊢
        exact (hsettles.1 hreport).2
    · change (world.store.events ++ [world.store.eventRow new]).countP _ ≤ 1
      rw [List.countP_append, List.countP_singleton]
      split
      · next hpicked =>
        rw [Bool.and_eq_true, beq_iff_eq] at hpicked
        obtain ⟨hid, hfinish⟩ := hpicked
        -- Nothing of the dispute was finished before.
        have hnone : world.store.events.countP (fun event =>
            event.disputeId == id && event.kind.isFinish) = 0 := by
          refine List.countP_eq_zero.mpr fun event hevent hpicked => ?_
          rw [Bool.and_eq_true, beq_iff_eq] at hpicked
          exact (hsettles.2 hfinish).2.1 ⟨event, hevent, hpicked.1.trans hid.symm, hpicked.2⟩
        rw [hnone]
      · exact h.finishedOnce id
    · rcases List.mem_append.mp hevent with hold | hnew
      · exact h.finished event hold hfinish
      · rw [List.mem_singleton.mp hnew] at hfinish ⊢
        exact (hsettles.2 hfinish).2.2

/-- Taking the lock of closings: nothing is left to be stored. -/
theorem lockFinishing (h : world.Accounts deployment) (thread : Thread Task) (oracle : Oracle)
    (hfree : world.finishing = none) :
    let later := (performCall deployment thread .lockFinishing oracle world).2
    later.Accounts deployment ∧ later.Closes thread.number := by
  have hthanked : ∀ message ∈ world.sent, message.template = .resolvedThanks →
      world.Stored message := by
    intro message hmem hthanks
    rcases h.thanked message hmem hthanks with hstored | ⟨number, hfinishing, -⟩
    · exact hstored
    · rw [hfree] at hfinishing
      cases hfinishing
  have hreported : ∀ told ∈ world.told, told.notification = "final_report" →
      world.Reported told.disputeId := by
    intro told htold hreport
    rcases h.reported told htold hreport with hreported | ⟨hsome, -⟩
    · exact hreported
    · rw [hfree] at hsome
      cases hsome
  exact ⟨{ h with
      thanked := fun message hmem hthanks => Or.inl (hthanked message hmem hthanks)
      reported := fun told htold hreport => Or.inl (hreported told htold hreport) },
    ⟨rfl, hthanked, hreported⟩⟩

/-- Giving the lock back. -/
theorem unlockFinishing (h : world.Accounts deployment) {oracle : Oracle}
    (hcloses : world.Closes thread.number) :
    (performCall deployment thread .unlockFinishing oracle world).2.Accounts deployment :=
  { h with
    thanked := fun message hmem hthanks => Or.inl (hcloses.thanked message hmem hthanks)
    reported := fun told htold hreport => Or.inl (hcloses.reported told htold hreport) }

/-- A party's message is no message of Serbero's. -/
theorem receive (h : world.Accounts deployment) {message : Message}
    (hinbound : message.direction = .inbound) :
    ({ world with
      store := { world.store with
        messages := world.store.messages ++ [message] } } : World).Accounts deployment := by
  refine { h with
    written := fun row hrow hout => ?_
    stored := fun row hrow party hsent => ?_
    thanked := fun other hmem hthanks => (h.thanked other hmem hthanks).imp
      (fun hstored => hstored.mono (List.subset_append_left _ _)) id }
  · rcases List.mem_append.mp hrow with hold | hnew
    · exact h.written row hold hout
    · rw [List.mem_singleton.mp hnew, hinbound] at hout
      cases hout
  · rcases List.mem_append.mp hrow with hold | hnew
    · exact h.stored row hold party hsent
    · rw [List.mem_singleton.mp hnew] at hsent
      simp [Message.isSent, hinbound] at hsent

end World.Accounts

/-! ## Every step keeps the account -/

/-- The call records a report or the end of a closing. -/
def Call.marksClosing {β : Type} : Call β → Bool
  | .append new => !new.kind.isOther
  | _ => false

/-- Any other call logs other kinds of events only. -/
theorem performCall_other (deployment : Deployment) {β : Type} (thread : Thread Task)
    (call : Call β) (hcall : call.marksClosing = false) (oracle : Oracle) (world : World) :
    Store.Logs EventKind.isOther world.store
      (performCall deployment thread call oracle world).2.store := by
  refine (performCall_logs deployment thread call oracle world).mono fun kind hkind => ?_
  cases call with
  | append new =>
    rw [show kind = new.kind from eq_of_beq hkind]
    simpa [Call.marksClosing] using hcall
  | activate _ _ _ => cases kind <;> first | rfl | cases hkind
  | abandon _ _ _ _ => cases kind <;> first | rfl | cases hkind
  | handOff _ _ _ => cases kind <;> first | rfl | cases hkind
  | startGuiding _ _ _ => cases kind <;> first | rfl | cases hkind
  | recordHold _ _ => cases kind <;> first | rfl | cases hkind
  | record _ _ => cases kind <;> first | rfl | cases hkind
  | _ => cases hkind

/-- Every call keeps what went out and what is stored in agreement. -/
theorem performCall_accounts (hdistinct : deployment.DistinctThanks) {β : Type} {call : Call β}
    {oracle : Oracle} {world : World} (hinv : world.core.Inv) (h : world.Accounts deployment)
    (hneeds : Needs thread call world) (hsettles : Settles deployment thread call world)
    (hcond : accounted.call thread call oracle world = true)
    (henabled : callEnabled call world = true) :
    (performCall deployment thread call oracle world).2.Accounts deployment := by
  have hcore := (performCall_stepped deployment thread call oracle hinv hneeds).follows.core
  by_cases htraffic : call.isTraffic = true
  -- Each of these calls has its own step lemma.
  · cases call with
    | gate rule message => exact h.gate hinv hneeds hsettles
    | sendEvent message => exact h.sendEvent hneeds hsettles
    | insertMessage new => exact h.insertMessage hdistinct hinv hneeds hsettles hcond
    | sendDm solver dispute notification => exact h.sendDm hsettles
    | lockFinishing =>
      have hfree : world.finishing = none := by simpa [callEnabled] using henabled
      exact (h.lockFinishing thread oracle hfree).1
    | unlockFinishing => exact h.unlockFinishing hsettles
    | recordHold session now =>
      have hlogs := performCall_other deployment thread (.recordHold session now) rfl oracle world
      revert hcore hlogs
      simp only [performCall, World.orFail]
      split
      · exact fun _ _ => h
      · exact fun hcore hlogs => h.advance hcore hlogs rfl (fun _ hmem => hmem) rfl rfl rfl rfl rfl
    | joinTurn again =>
      obtain ⟨running, dueAgain, deadlines, hover⟩ := world.turnOver_eq thread.number again
      show (world.turnOver thread.number again).Accounts deployment
      rw [hover]
      exact { h with }
    | joinTick => exact { h with }
    | _ => cases htraffic
  -- The other calls see neither messages nor the lock; one of them may record a closing.
  · have hsame := performCall_traffic deployment thread call (by simpa using htraffic) oracle world
    by_cases hmarks : call.marksClosing = true
    · cases call with
      | append new => exact h.append hsettles
      | _ => cases hmarks
    · refine h.advance hcore (performCall_other deployment thread call (by simpa using hmarks)
        oracle world) (congrArg Traffic.messages hsame) ?_ (congrArg Traffic.recording hsame)
        (congrArg Traffic.sent hsame) (congrArg Traffic.told hsame)
        (congrArg Traffic.finishing hsame) (congrArg Traffic.closings hsame)
      have hsending : (performCall deployment thread call oracle world).2.sending =
          world.sending := congrArg Traffic.sending hsame
      rw [hsending]
      exact fun _ hmem => hmem

/-- A process that starts again finds everything that went out on record. -/
theorem restart_accounts {world : World} (h : world.Accounts deployment) {oracle : Oracle}
    (hcond : accounted.restart oracle world = true) :
    (restart oracle world).Accounts deployment := by
  change ((world.recording.all fun entry => entry.2.template != .resolvedThanks) &&
    world.told.all fun told => told.notification != "final_report" ||
      world.store.events.any fun event =>
        event.disputeId == told.disputeId && event.kind.isReport) = true at hcond
  obtain ⟨hrecording, htold⟩ := Bool.and_eq_true_iff.mp hcond
  refine { h with
    recording := fun _ hentry => absurd hentry List.not_mem_nil
    thanked := fun message hmem hthanks => Or.inl ?_
    toSend := fun _ hentry => absurd hentry List.not_mem_nil
    reported := fun told hmem hreport => Or.inl ?_ }
  · rcases h.thanked message hmem hthanks with hstored | ⟨number, -, hentry⟩
    · exact hstored
    · have := List.all_eq_true.mp hrecording _ hentry
      simp [hthanks] at this
  · have := List.all_eq_true.mp htold told hmem
    obtain ⟨event, hevent, hpicked⟩ : ∃ event ∈ world.store.events,
        (event.disputeId == told.disputeId && event.kind.isReport) = true := by
      simpa [hreport] using this
    rw [Bool.and_eq_true, beq_iff_eq] at hpicked
    exact ⟨event, hevent, hpicked.1, hpicked.2⟩

/-- A task that starts leaves the account. -/
theorem launch_accounts {world later : World} (hinv : world.core.Inv)
    (h : world.Accounts deployment) (hlaunch : launch thread world = some later) :
    later.Accounts deployment ∧ ∀ number, later.account number = world.account number := by
  obtain ⟨hstore, htraffic⟩ := launch_traffic hlaunch
  have hfield : ∀ {γ : Type} (field : Traffic → γ),
      field { later.traffic with ticking := none, running := [] } =
        field { world.traffic with ticking := none, running := [] } :=
    fun field => congrArg field htraffic
  have hsending : later.sending = world.sending := hfield Traffic.sending
  have hrecording : later.recording = world.recording := hfield Traffic.recording
  have hsent : later.sent = world.sent := hfield Traffic.sent
  have htold : later.told = world.told := hfield Traffic.told
  have hfinishing : later.finishing = world.finishing := hfield Traffic.finishing
  have hclosings : later.closings = world.closings := hfield Traffic.closings
  refine ⟨h.advance (launch_stepped hinv hlaunch).follows.core (.of_eq (by rw [hstore]))
    (by rw [hstore]) (by rw [hsending]; exact fun _ hmem => hmem) hrecording hsent htold hfinishing
      hclosings, fun number => ?_⟩
  simp only [World.account, hstore, hrecording, hsent, htold, hfinishing, hclosings]

/-- What happens outside the tasks leaves the account. -/
theorem happen_accounts {happening : Happening} {world later : World} (hinv : world.core.Inv)
    (h : world.Accounts deployment) (hhappen : happen deployment happening world = some later) :
    later.Accounts deployment ∧ ∀ number, later.account number = world.account number := by
  obtain ⟨hevents, htraffic⟩ := happen_traffic hhappen
  have hcore := (happen_stepped hinv hhappen).follows.core
  have hlogs : Store.Logs EventKind.isOther world.store later.store := .of_eq hevents
  have hfields : later.sending = world.sending ∧ later.recording = world.recording ∧
      later.sent = world.sent ∧ later.told = world.told ∧ later.finishing = world.finishing ∧
        later.closings = world.closings := by
    rcases htraffic with hsame | ⟨message, -, -, hsame⟩
    · exact ⟨congrArg Traffic.sending hsame, congrArg Traffic.recording hsame,
        congrArg Traffic.sent hsame, congrArg Traffic.told hsame,
        congrArg Traffic.finishing hsame, congrArg Traffic.closings hsame⟩
    · exact ⟨congrArg Traffic.sending hsame, congrArg Traffic.recording hsame,
        congrArg Traffic.sent hsame, congrArg Traffic.told hsame,
        congrArg Traffic.finishing hsame, congrArg Traffic.closings hsame⟩
  obtain ⟨hsending, hrecording, hsent, htold, hfinishing, hclosings⟩ := hfields
  -- The later world, but for the message that came in.
  let before : World :=
    { later with store := { later.store with messages := world.store.messages } }
  have hbefore : before.Accounts deployment :=
    h.advance hcore hlogs rfl (by rw [show before.sending = _ from hsending]; exact fun _ h => h)
      hrecording hsent htold hfinishing hclosings
  have haccount : ∀ number, before.account number = world.account number := by
    intro number
    simp only [World.account, before, hevents, hrecording, hsent, htold, hfinishing, hclosings]
  rcases htraffic with hsame | ⟨message, hinbound, -, hsame⟩
  · have hmessages : later.store.messages = world.store.messages := congrArg Traffic.messages hsame
    have heq : before = later := by simp only [before, ← hmessages]
    exact heq ▸ ⟨hbefore, haccount⟩
  · have hmessages : later.store.messages = world.store.messages ++ [message] :=
      congrArg Traffic.messages hsame
    have heq : { before with
        store := { before.store with messages := before.store.messages ++ [message] } } = later := by
      simp only [before, ← hmessages]
    refine ⟨heq ▸ hbefore.receive hinbound, fun number => ?_⟩
    rw [← haccount number, ← heq]
    simp [World.account, Message.isThanks, hinbound]

/-- A step that leaves the traffic, and logs other kinds of events only. -/
theorem World.account_eq {world later : World} (htraffic : later.traffic = world.traffic)
    (hlogs : Store.Logs EventKind.isOther world.store later.store) (number : Nat) :
    later.account number = world.account number := by
  have hevents : later.store.events.filter
      (fun event => event.kind.isReport || event.kind.isFinish) =
        world.store.events.filter fun event => event.kind.isReport || event.kind.isFinish :=
    hlogs.filter_eq fun event hkind => by simpa [EventKind.isOther] using hkind
  have hmessages : later.store.messages = world.store.messages := congrArg Traffic.messages htraffic
  have hrecording : later.recording = world.recording := congrArg Traffic.recording htraffic
  have hsent : later.sent = world.sent := congrArg Traffic.sent htraffic
  have htold : later.told = world.told := congrArg Traffic.told htraffic
  have hfinishing : later.finishing = world.finishing := congrArg Traffic.finishing htraffic
  have hclosings : later.closings = world.closings := congrArg Traffic.closings htraffic
  simp only [World.account, hmessages, hevents, hrecording, hsent, htold, hfinishing, hclosings]

/-- A call of another thread leaves the account of the thread that holds the lock. -/
theorem performCall_account {β : Type} {call : Call β} {oracle : Oracle} {world : World}
    (hsettles : Settles deployment thread call world) (henabled : callEnabled call world = true)
    {number : Nat} (hholds : world.finishing = some number) (hother : number ≠ thread.number) :
    (performCall deployment thread call oracle world).2.account number = world.account number := by
  -- Another task holds the lock, so this one writes no thanks, no report and no end.
  have hnot : world.finishing ≠ some thread.number := by
    rw [hholds]
    exact fun heq => hother (Option.some.inj heq)
  by_cases htraffic : call.isTraffic = true
  · cases call with
    | gate rule message =>
      simp only [performCall, World.orFail, World.checkGate]
      split
      · rfl
      · split <;> rfl
    | sendEvent message =>
      have hthanks : message.template ≠ .resolvedThanks :=
        fun hthanks => hnot (hsettles hthanks).1.holds
      simp only [performCall, World.sendEvent]
      split
      · rfl
      · simp [World.account, hthanks, Ne.symm hother]
    | insertMessage new =>
      obtain ⟨messages, hlater, hmessages⟩ :=
        performCall_insertMessage deployment thread new oracle world
      obtain ⟨template, htemplate, -, -, hunderway⟩ := hsettles
      have hthanks : template ≠ .resolvedThanks := fun hthanks => hnot (hunderway hthanks).1
      have hrows : messages.filter Message.isThanks =
          world.store.messages.filter Message.isThanks := by
        rcases hmessages with rfl | rfl
        · rfl
        · simp [Message.isThanks, NewMessage.row, htemplate, hthanks]
      rw [hlater]
      -- What this task has under way is not counted for the one that holds the lock.
      simp only [World.account, hrows, World.endSending, List.filter_filter]
      congr 1
      refine List.filter_congr fun entry _ => ?_
      by_cases hmine : entry.1 = number
      · simp [hmine, hother]
      · simp [hmine]
    | sendDm solver dispute notification =>
      have hreport : notification ≠ "final_report" := fun hreport => hnot (hsettles hreport).1
      simp only [performCall, World.orFail]
      split
      · rfl
      · simp [World.account, hreport]
    | lockFinishing =>
      rw [callEnabled, hholds] at henabled
      cases henabled
    | unlockFinishing => exact absurd hsettles.holds hnot
    | recordHold session now =>
      simp only [performCall, World.orFail]
      split
      · rfl
      · simp [World.account, Store.append, EventKind.isReport, EventKind.isFinish]
    | joinTurn again =>
      obtain ⟨running, dueAgain, deadlines, hover⟩ := world.turnOver_eq thread.number again
      show (world.turnOver thread.number again).account number = _
      rw [hover]
      rfl
    | joinTick => rfl
    | _ => cases htraffic
  · have hsame := performCall_traffic deployment thread call (by simpa using htraffic) oracle world
    have hmarks : call.marksClosing = false := by
      cases call with
      | append new =>
        have hreport : new.kind.isReport = false := by
          by_contra hreport
          exact hnot (hsettles.1 (by simpa using hreport)).1
        have hfinish : new.kind.isFinish = false := by
          by_contra hfinish
          exact hnot (hsettles.2 (by simpa using hfinish)).1
        simp [Call.marksClosing, EventKind.isOther, hreport, hfinish]
      | _ => rfl
    exact World.account_eq hsame (performCall_other deployment thread call hmarks oracle world) _

/-- The closings: what went out and what is stored agree, and while a thread holds the lock nobody
else touches their account. -/
def closeExtension (deployment : Deployment) (hdistinct : deployment.DistinctThanks) :
    Extension (contract deployment (accounted.whenEnabled (machine deployment))) where
  inv := World.Accounts deployment
  pre thread call world := Settles deployment thread call world
  rely thread world later := world.finishing = some thread.number →
    later.account thread.number = world.account thread.number
  rely_refl _ _ _ := rfl
  rely_trans _ _ h h' hholds := by
    have hsame := h hholds
    exact (h' ((congrArg Account.finishing hsame).trans hholds)).trans hsame
  call_inv hinv h hneeds hsettles hcond :=
    have hboth := Bool.and_eq_true_iff.mp hcond
    performCall_accounts hdistinct hinv h hneeds hsettles hboth.1 hboth.2
  call_rely _ _ _ hsettles hcond hother hholds :=
    performCall_account hsettles (Bool.and_eq_true_iff.mp hcond).2 hholds hother
  launch_inv hinv h _ hlaunch := (launch_accounts hinv h hlaunch).1
  launch_rely hinv h _ hlaunch _ := (launch_accounts hinv h hlaunch).2 _
  happen_inv hinv h _ hhappen := (happen_accounts hinv h hhappen).1
  happen_rely hinv h _ hhappen _ := (happen_accounts hinv h hhappen).2 _
  restart_inv _ h hcond := restart_accounts h hcond

end Serbero
