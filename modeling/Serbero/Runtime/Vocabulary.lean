import Serbero.Lib.Extension
import Serbero.Runtime.System

/-! # What each program may say

Which calls the programs make, whatever the other tasks do and whatever the calls answer: which
messages to parties, which notifications to solvers, which records. -/

namespace Serbero

open Pool
open Pool.Program

/-! ## Kinds of calls -/

/-- The call reads, or asks the judge or the node, and leaves nothing in the store. -/
def Call.isQuery {β : Type} : Call β → Bool
  | .read _ | .load _ | .now | .readyJudge | .isTaking _ | .chatIsOpen _ => true
  | .fetchOrder | .wrap | .evaluate _ => true
  | _ => false

/-- A text the catalog has for the template. -/
def Rendered (deployment : Deployment) (template : Template) (text : String) : Prop :=
  ∃ lang withIntro amount, deployment.render lang template withIntro amount = .ok text

/-- The call is part of sending a party a template. -/
def Call.sends (deployment : Deployment) (id : SessionId) (party : Party) (template : Template)
    {β : Type} : Call β → Prop
  | .gate _ message | .sendEvent message => message = ⟨id, party, template⟩
  | .insertMessage new =>
    new.sessionId = id ∧ new.direction = .outbound ∧ new.party = party ∧
      new.templateId = some template ∧ new.innerEventId = .serbero new.createdAt new.content ∧
        Rendered deployment template new.content
  | _ => False

/-- A check of the gate that the call makes is of this rule. -/
def Call.isUnder (rule : GateRule) {β : Type} : Call β → Prop
  | .gate found _ => found = rule
  | _ => True

/-- The call is part of sending a solver a notification. -/
def Call.tells (dispute : DisputeId) (notification : String) {β : Type} : Call β → Prop
  | .sendDm _ about text => about = dispute ∧ text = notification
  | .append new => new.disputeId = dispute ∧ new.sessionId = none ∧
      ∃ solver, new.kind = .notificationSent solver notification ∨
        new.kind = .notificationFailed solver notification
  | _ => False

/-- The notifications that tell a solver about a session. -/
def sessionNotices : List String := ["brief", "transcript", "update"]

/-- The call is part of telling the solvers about a session. -/
def Call.briefs (deployment : Deployment) {β : Type} (call : Call β) : Prop :=
  (∃ dispute, ∃ notification ∈ sessionNotices, call.tells dispute notification) ∨
    match call with
    | .append new =>
      (∃ pending, new.kind = .briefSent pending) ∨ ∃ last, new.kind = .updateSent last
    | .insertEvaluation new => new.questionSetVersion = deployment.briefQuestions
    | _ => False

/-- Reading, asking and briefing is allowed. -/
structure AllowsBriefs (deployment : Deployment) (allowed : {β : Type} → Call β → Prop) : Prop where
  query : ∀ {β : Type} {call : Call β}, call.isQuery = true → allowed call
  briefs : ∀ {β : Type} {call : Call β}, call.briefs deployment → allowed call

/-- The party may be sent the template. -/
def MaySend (deployment : Deployment) (allowed : {β : Type} → Call β → Prop) (id : SessionId)
    (party : Party) (template : Template) : Prop :=
  ∀ {β : Type} {call : Call β}, call.sends deployment id party template → allowed call

/-- The party may be sent the template past a gate of this rule. -/
def MaySendUnder (deployment : Deployment) (rule : GateRule)
    (allowed : {β : Type} → Call β → Prop) (id : SessionId) (party : Party)
    (template : Template) : Prop :=
  ∀ {β : Type} {call : Call β}, call.sends deployment id party template → call.isUnder rule →
    allowed call

/-- The solvers may be told. -/
def MayTell (allowed : {β : Type} → Call β → Prop) (dispute : DisputeId)
    (notification : String) : Prop :=
  ∀ {β : Type} {call : Call β}, call.tells dispute notification → allowed call

/-- Reading, asking and telling the solvers about a session is allowed. -/
structure AllowsReports (allowed : {β : Type} → Call β → Prop) : Prop where
  query : ∀ {β : Type} {call : Call β}, call.isQuery = true → allowed call
  tell : ∀ dispute, ∀ notification ∈ sessionNotices, MayTell allowed dispute notification
  briefSent : ∀ dispute id pending now, allowed (.append ⟨dispute, id, .briefSent pending, now⟩)
  updateSent : ∀ dispute id last now, allowed (.append ⟨dispute, id, .updateSent last, now⟩)

variable {deployment : Deployment} {allowed : {β : Type} → Call β → Prop} {thread : Thread Task}

/-- A brief is reported. -/
theorem AllowsBriefs.reports (h : AllowsBriefs deployment allowed) : AllowsReports allowed where
  query := h.query
  tell dispute notification hmem _ _ htells :=
    h.briefs (.inl ⟨dispute, notification, hmem, htells⟩)
  briefSent _ _ pending _ := h.briefs (.inr (.inl ⟨pending, rfl⟩))
  updateSent _ _ last _ := h.briefs (.inr (.inr ⟨last, rfl⟩))

/-- The calls the thread's program comes to make are allowed. -/
abbrev Says (deployment : Deployment) (thread : Thread Task)
    (allowed : {β : Type} → Call β → Prop) {α : Type} (program : Daemon α) : Prop :=
  (machine deployment).Makes thread allowed (fun _ => True) program

/-- A query whose result does not matter. -/
theorem says_query (h : AllowsReports allowed) {α : Type} {call : Call α}
    (hquery : call.isQuery = true) : Says deployment thread allowed (perform call) :=
  .perform (h.query hquery) fun _ _ => trivial

/-- An attempted program makes the same calls. -/
theorem says_attempt {α : Type} {program : Daemon α}
    (h : Says deployment thread allowed program) : Says deployment thread allowed program.attempt :=
  .attempt h (fun _ _ => trivial) fun _ => trivial

/-! ## Sending -/

/-- A message under a rule of the gate stays within what is allowed when its template, its recipient
and its rule are. -/
theorem says_sendUnder (h : AllowsReports allowed) {rule : GateRule} (session : Session)
    {message : Outbound} (hrendered : Rendered deployment message.template message.text)
    (hsend : MaySendUnder deployment rule allowed session.sessionId message.party
      message.template) :
    Says deployment thread allowed (sendWhen rule session message) := by
  refine .bind (says_query h rfl) fun createdAt _ => ?_
  refine .bind (.perform (hsend rfl rfl) fun _ _ => trivial) fun _ _ => ?_
  refine .bind (.perform (hsend rfl trivial) fun _ _ => trivial) fun _ _ => ?_
  refine .bind (.perform (hsend ⟨rfl, rfl, rfl, rfl, rfl, hrendered⟩ trivial) fun _ _ => trivial)
    fun _ _ => ?_
  exact trivial

/-- The same where the sender may write the template under any rule. -/
theorem says_sendWhen (h : AllowsReports allowed) (rule : GateRule) (session : Session)
    {message : Outbound} (hrendered : Rendered deployment message.template message.text)
    (hsend : MaySend deployment allowed session.sessionId message.party message.template) :
    Says deployment thread allowed (sendWhen rule session message) :=
  says_sendUnder h session hrendered fun hsends _ => hsend hsends

/-- A rendered template has a text of the catalog. -/
theorem makes_renderFor (session : Session) (party : Party) (template : Template)
    (withIntro : Bool) :
    (machine deployment).Makes thread allowed (fun message => message.party = party ∧
      message.template = template ∧ Rendered deployment template message.text)
      (renderFor deployment session party template withIntro) := by
  unfold renderFor
  simp only [bind_eq]
  cases hrender : deployment.render (languageOf deployment session party) template withIntro
      session.amount with
  | error failure => exact trivial
  | ok text => exact ⟨rfl, rfl, _, _, _, hrender⟩

/-- One template of one party's catalog is one allowed write. -/
theorem says_sendTemplate (h : AllowsReports allowed) {session : Session} {party : Party}
    {template : Template}
    (hsend : MaySend deployment allowed session.sessionId party template) :
    Says deployment thread allowed (sendTemplate deployment session party template) := by
  refine .bind (says_query h rfl) fun withIntro _ => ?_
  refine .bind (makes_renderFor session party template withIntro) fun message hmessage => ?_
  obtain ⟨rfl, rfl, hrendered⟩ := hmessage
  split
  · exact says_sendWhen h _ session hrendered hsend
  · exact says_sendWhen h _ session hrendered hsend

/-- Asking whether a party has a template on record only reads. -/
theorem says_received (h : AllowsReports allowed) (session : Session) (party : Party)
    (template : Template) :
    Says deployment thread allowed (received session party template) :=
  says_query h rfl

/-- Every solver is written the notification the sender may tell of the dispute. -/
theorem says_notifySolvers {solvers : List Solver} {dispute : DisputeId} {notification : String}
    (htell : MayTell allowed dispute notification) (now : Int) :
    Says deployment thread allowed (notifySolvers solvers dispute notification now) := by
  refine .bind (.foldEach (fun carried solver _ => ?_) _) fun result _ => ?_
  · refine .bind (says_attempt (.perform (htell ⟨rfl, rfl⟩) fun _ _ => trivial)) fun sent _ => ?_
    cases sent with
    | ok _ =>
      refine .bind (says_attempt (.perform (htell ⟨rfl, rfl, solver.pubkey, .inl rfl⟩)
        fun _ _ => trivial)) fun recorded _ => ?_
      cases recorded <;> exact trivial
    | error _ =>
      refine .bind (says_attempt (.perform (htell ⟨rfl, rfl, solver.pubkey, .inr rfl⟩)
        fun _ _ => trivial)) fun recorded _ => ?_
      cases recorded <;> exact trivial
  · obtain ⟨delivered, failure⟩ := result
    cases failure <;> exact trivial

/-- The parts to one solver are allowed when each of them is; the first that fails stops the rest.
-/
theorem says_deliverParts (h : AllowsReports allowed) (solver : Solver)
    {dispute : DisputeId} (now : Int) {parts : List String}
    (hparts : ∀ part ∈ parts, MayTell allowed dispute part) :
    Says deployment thread allowed (deliverParts solver dispute now parts) := by
  induction parts with
  | nil => exact trivial
  | cons part rest ih =>
    refine .bind (says_query h rfl) fun sentAt _ => ?_
    refine .bind (says_notifySolvers (hparts part List.mem_cons_self) _) fun sent _ => ?_
    split
    · exact trivial
    · exact ih fun other hother => hparts other (List.mem_cons_of_mem part hother)

/-- So is the text to every solver. -/
theorem says_deliver (h : AllowsReports allowed) (solvers : List Solver)
    {dispute : DisputeId} {parts : List String}
    (hparts : ∀ part ∈ parts, MayTell allowed dispute part) (now : Int) :
    Says deployment thread allowed (deliver solvers dispute parts now) := by
  refine .foldEach (fun complete solver _ => ?_) 0
  exact .bind (says_deliverParts h solver now hparts) fun _ _ => trivial

/-! ## Briefs and hand-offs -/

/-- A brief asked of the judge tells the solvers only what the judge's text allows. -/
theorem says_askBrief (h : AllowsBriefs deployment allowed) (session : Session)
    (reading : TurnReading) (subject : Subject) (now : Int) :
    Says deployment thread allowed (askBrief deployment session reading subject now) := by
  have judge : Says deployment thread allowed ((attempt (perform (.evaluate reading.state))).bind
        (judgedBrief deployment session reading subject now)) := by
    refine .bind (says_attempt (says_query h.reports rfl)) fun judged _ => ?_
    cases judged with
    | error failure => exact trivial
    | ok answers =>
      exact .bind (says_attempt (.perform (h.briefs (.inr rfl)) fun _ _ => trivial))
        fun _ _ => trivial
  refine .bind (says_attempt (says_query h.reports rfl)) fun stored _ => ?_
  rcases stored with failure | _ | answers
  · exact judge
  · exact judge
  · exact trivial

/-- The brief's chain ends in one allowed text, whether the judge, the chat or neither served it. -/
theorem says_briefSolvers (h : AllowsBriefs deployment allowed) (session : Session)
    (subject : Subject) (reading : Option TurnReading) (now : Int) :
    Says deployment thread allowed (briefSolvers deployment session subject reading now) := by
  refine .bind (says_query h.reports rfl) fun messages _ => ?_
  refine .bind (says_query h.reports rfl) fun ready _ => ?_
  have hparts : ∀ part ∈ "brief" :: List.replicate (deployment.parts messages) "transcript",
      MayTell allowed session.disputeId part := by
    intro part hpart
    refine h.reports.tell _ _ ?_
    rcases List.mem_cons.mp hpart with rfl | hrest
    · decide
    · rw [(List.mem_replicate.mp hrest).2]
      decide
  have sent : Says deployment thread allowed
      (deliver (recipients deployment.solvers) session.disputeId
        ("brief" :: List.replicate (deployment.parts messages) "transcript") now) :=
    says_deliver h.reports _ hparts now
  cases reading with
  | none => exact sent
  | some reading =>
    cases ready
    · exact sent
    · exact .bind (says_askBrief h session reading subject now) fun _ _ => sent

/-- Recording that the solvers got a brief appends one event. -/
theorem says_briefDelivered (h : AllowsReports allowed) (session : Session)
    (pending now : Int) : Says deployment thread allowed (briefDelivered session pending now) :=
  .perform (h.briefSent _ _ pending now) fun _ _ => trivial

/-- The parties may be told of the hand-off. -/
def MayHandOver (deployment : Deployment) (allowed : {β : Type} → Call β → Prop)
    (id : SessionId) : Prop :=
  ∀ party, MaySend deployment allowed id party .handoffNotice

/-- One party's hand-off notice. -/
theorem says_tellHandoff (h : AllowsReports allowed) {session : Session}
    (hnotice : MayHandOver deployment allowed session.sessionId) (party : Party) :
    Says deployment thread allowed (tellHandoff deployment session party) := by
  refine .bind (says_received h session party .handoffNotice) fun told _ => ?_
  split
  · exact trivial
  · exact .bind (says_attempt (says_sendTemplate h (hnotice party))) fun _ _ => trivial

/-- A hand-off is the claim, the brief and the notices, in that order. -/
theorem says_handOff (h : AllowsBriefs deployment allowed) {session : Session}
    (hnotice : MayHandOver deployment allowed session.sessionId) {reason : HandoffReason}
    (reading : Option TurnReading) {now : Int} (hclaim : allowed (.handOff session reason now)) :
    Says deployment thread allowed (handOff deployment session reason reading now) := by
  refine .bind (.perform hclaim fun _ _ => trivial) fun claimed _ => ?_
  cases claimed with
  | none => exact trivial
  | some pending =>
    refine .bind (says_briefSolvers h session _ reading now) fun delivered _ => ?_
    have told : Says deployment thread allowed
        (forEach (tellHandoff deployment session) Party.both) :=
      .forEach fun party _ => says_tellHandoff h.reports hnotice party
    split
    · exact .bind (says_briefDelivered h.reports session pending now) fun _ _ =>
        .bind told fun _ _ => trivial
    · exact .bind told fun _ _ => trivial

/-- An update to the solvers is so many parts, and one event once somebody got them. -/
theorem says_forwardUpdates (h : AllowsReports allowed) (session : Session) (now : Int) :
    Says deployment thread allowed (forwardUpdates deployment session now) := by
  refine .bind (says_query h rfl) fun fresh _ => ?_
  split
  · exact trivial
  · next last _ =>
    refine .bind (says_deliver h _ (fun part hpart => ?_) now) fun delivered _ => ?_
    · rw [(List.mem_replicate.mp hpart).2]
      exact h.tell _ _ (by decide)
    · split
      · exact trivial
      · exact .bind (.perform (h.updateSent _ _ last.id now) fun _ _ => trivial)
          fun _ _ => trivial

/-! ## Guidance, holds and closings -/

/-- The parties may be sent the guidance of a path. -/
def MayGuide (deployment : Deployment) (allowed : {β : Type} → Call β → Prop)
    (id : SessionId) : Prop :=
  ∀ path, ∀ entry ∈ guides path, MaySend deployment allowed id entry.1 entry.2

/-- The parties may be told of a hold. -/
def MayHold (deployment : Deployment) (allowed : {β : Type} → Call β → Prop)
    (id : SessionId) : Prop :=
  ∀ party, MaySend deployment allowed id party .holdNotice

/-- Both guides of a path. -/
theorem says_sendGuides (h : AllowsReports allowed) {session : Session}
    (hguide : MayGuide deployment allowed session.sessionId) (path : Path) :
    Says deployment thread allowed (sendGuides deployment session path) := by
  refine .foldEach (fun missing entry hentry => ?_) 0
  refine .bind (says_received h session _ _) fun got _ => ?_
  split
  · exact trivial
  · refine .bind (says_attempt (says_sendTemplate h (hguide path entry hentry))) fun sent _ => ?_
    cases sent <;> exact trivial

/-- Guiding claims the path, briefs the solvers and writes both guides. -/
theorem says_guide (h : AllowsBriefs deployment allowed) {session : Session}
    (hguide : MayGuide deployment allowed session.sessionId) {path : Path} (reading : TurnReading)
    {now : Int} (hclaim : allowed (.startGuiding session path now)) :
    Says deployment thread allowed (guide deployment session path reading now) := by
  refine .bind (.perform hclaim fun _ _ => trivial) fun claimed _ => ?_
  cases claimed with
  | none => exact trivial
  | some pending =>
    refine .bind (says_briefSolvers h session _ _ now) fun delivered _ => ?_
    split
    · exact .bind (says_briefDelivered h.reports session pending now) fun _ _ =>
        .bind (says_sendGuides h.reports hguide path) fun _ _ => trivial
    · exact .bind (says_sendGuides h.reports hguide path) fun _ _ => trivial

/-- Guides that are missing are written again for the path on record. -/
theorem says_resendGuides (h : AllowsReports allowed) {session : Session}
    (hguide : MayGuide deployment allowed session.sessionId) :
    Says deployment thread allowed (resendGuides deployment session) := by
  refine .bind (says_query h rfl) fun path _ => ?_
  cases path with
  | none => exact trivial
  | some path => exact says_sendGuides h hguide path

/-- Both hold notices since the cutoff. -/
theorem says_sendHoldNotices (h : AllowsReports allowed) {session : Session}
    (hhold : MayHold deployment allowed session.sessionId) (cutoff : Int) :
    Says deployment thread allowed (sendHoldNotices deployment session cutoff) := by
  refine .forEach fun party _ => ?_
  refine .bind (says_attempt (says_query h rfl)) fun got _ => ?_
  match got with
  | .ok false => exact .bind (says_attempt (says_sendTemplate h (hhold party))) fun _ _ => trivial
  | .ok true => exact trivial
  | .error failure => exact trivial

/-- A hold is recorded before its notices are written. -/
theorem says_hold (h : AllowsReports allowed) {session : Session}
    (hhold : MayHold deployment allowed session.sessionId) {now : Int}
    (hrecord : allowed (.recordHold session now)) :
    Says deployment thread allowed (hold deployment session now) :=
  .bind (.perform hrecord fun _ _ => trivial) fun cutoff _ => says_sendHoldNotices h hhold cutoff

/-- What a closing may say besides what it asks. -/
structure MayClose (deployment : Deployment) (allowed : {β : Type} → Call β → Prop) : Prop where
  lock : allowed .lockFinishing
  unlock : allowed .unlockFinishing
  closeChat : ∀ id, allowed (.closeChat id)
  thank : ∀ id party, MaySend deployment allowed id party .resolvedThanks
  report : ∀ dispute, MayTell allowed dispute "final_report"
  finished : ∀ dispute id status now, allowed (.append ⟨dispute, some id, .finished status, now⟩)

/-- What a closing may say besides what it asks: it thanks past the gate of closed sessions. -/
structure MayFinish (deployment : Deployment) (allowed : {β : Type} → Call β → Prop) : Prop where
  lock : allowed .lockFinishing
  unlock : allowed .unlockFinishing
  closeChat : ∀ id, allowed (.closeChat id)
  thank : ∀ id party, MaySendUnder deployment .closed allowed id party .resolvedThanks
  report : ∀ dispute, MayTell allowed dispute "final_report"
  finished : ∀ dispute id status now, allowed (.append ⟨dispute, some id, .finished status, now⟩)

/-- What may be thanked past any gate may be past that one. -/
theorem MayClose.finishes (h : MayClose deployment allowed) : MayFinish deployment allowed where
  lock := h.lock
  unlock := h.unlock
  closeChat := h.closeChat
  thank id party _ _ hsends _ := h.thank id party hsends
  report := h.report
  finished := h.finished

/-- The thanks go to the parties, and only where they resolved it themselves. -/
theorem says_thankParties (h : AllowsReports allowed) (hclose : MayFinish deployment allowed)
    (session : Session) (ended : Outcome) :
    Says deployment thread allowed (thankParties deployment session ended) := by
  unfold thankParties
  split
  · refine .foldEach (fun complete party _ => ?_) true
    refine .bind (says_received h session party .resolvedThanks) fun got _ => ?_
    split
    · exact trivial
    · refine .bind (says_attempt (.bind (makes_renderFor session party .resolvedThanks false)
        fun message hmessage => ?_)) fun sent _ => ?_
      · obtain ⟨rfl, htemplate, hrendered⟩ := hmessage
        rw [← htemplate] at hrendered
        refine says_sendUnder h session hrendered ?_
        rw [htemplate]
        exact hclose.thank _ _
      · cases sent <;> exact trivial
  · exact trivial

/-- The report is told to the solvers unless the history has one. -/
theorem says_sendReport (hclose : MayFinish deployment allowed) (dispute : DisputeId)
    (history : List Event) (now : Int) :
    Says deployment thread allowed (sendReport deployment dispute history now) := by
  unfold sendReport
  split
  · exact trivial
  · exact .bind (says_notifySolvers (hclose.report dispute) now) fun _ _ => trivial

/-- A closing ends the chat, thanks the parties, reports, and records that all of it went out. -/
theorem says_closeResolved (h : AllowsReports allowed)
    (hclose : MayFinish deployment allowed) (dispute : DisputeId) (status : DisputeStatus)
    (byParties : Bool) (now : Int) :
    Says deployment thread allowed (closeResolved deployment dispute status byParties now) := by
  refine .bind (says_query h rfl) fun read _ => ?_
  obtain ⟨latest, history⟩ := read
  cases latest with
  | none => exact trivial
  | some session =>
    simp only []
    split
    · exact trivial
    · refine .bind (.perform (hclose.closeChat _) fun _ _ => trivial) fun _ _ => ?_
      refine .bind (says_thankParties h hclose session _) fun thanked _ => ?_
      refine .bind (says_sendReport hclose dispute history now) fun reported _ => ?_
      split
      · exact .bind (.perform (hclose.finished _ _ _ _) fun _ _ => trivial) fun _ _ => trivial
      · exact trivial

/-- A dispute is finished under the lock that keeps two closings apart. -/
theorem says_finish (h : AllowsReports allowed) (hclose : MayFinish deployment allowed)
    (dispute : DisputeId) (status : DisputeStatus) (byParties : Bool) (now : Int) :
    Says deployment thread allowed (finish deployment dispute status byParties now) := by
  refine .bind (.perform hclose.lock fun _ _ => trivial) fun _ _ => ?_
  refine .bind (says_attempt (says_closeResolved h hclose dispute status byParties now))
    fun result _ => ?_
  refine .bind (.perform hclose.unlock fun _ _ => trivial) fun _ _ => ?_
  cases result <;> exact trivial

/-- Every closing still pending is finished within the same bounds. -/
theorem says_finishPending (h : AllowsReports allowed)
    (hclose : MayFinish deployment allowed) (since now : Int) :
    Says deployment thread allowed (finishPending deployment since now) := by
  refine .bind (says_attempt (says_query h rfl)) fun pending _ => ?_
  cases pending with
  | error failure => exact trivial
  | ok pending =>
    exact .forEach fun resolution _ =>
      .bind (says_attempt (says_finish h hclose _ _ _ now)) fun _ _ => trivial

/-! ## Turns -/

/-- What a turn of the session may say besides what it asks. -/
structure MayTurn (deployment : Deployment) (allowed : {β : Type} → Call β → Prop)
    (id : SessionId) : Prop where
  ask : ∀ party template, template.isAsked = true → MaySend deployment allowed id party template
  handOver : MayHandOver deployment allowed id
  guide : MayGuide deployment allowed id
  hold : MayHold deployment allowed id
  handOff : ∀ session reason now, session.sessionId = id → reason ≠ .unresponsive →
    allowed (.handOff session reason now)
  startGuiding : ∀ session path now, session.sessionId = id →
    allowed (.startGuiding session path now)
  recordHold : ∀ session now, session.sessionId = id → allowed (.recordHold session now)
  setLanguage : ∀ party lang now, allowed (.setLanguage id party lang now)
  countRound : ∀ party firstInTurn now, allowed (.countRound id party firstInTurn now)
  evaluation : ∀ new, new.sessionId = id → allowed (.insertEvaluation new)
  strike : ∀ dispute party count last now,
    allowed (.append ⟨dispute, some id, .floodStrike party count last, now⟩)

/-- The row a section finds under an id has it. -/
theorem Store.sessionId_of_session {store : Store} {id : SessionId} {session : Session}
    (h : store.session id = some session) : session.sessionId = id := by
  simpa using List.find?_some h

/-- A reload finds the session it was asked for and nothing else. -/
theorem makes_reload {id : SessionId} (hread : allowed (.read fun store => store.session id)) :
    (machine deployment).Makes thread allowed (fun session => session.sessionId = id)
      (reload id) := by
  have hfound : (machine deployment).Makes thread allowed
      (fun found => ∀ session, found = some session → session.sessionId = id)
      (perform (.read fun store => store.session id)) := by
    refine .perform hread fun found hgives session hfound => ?_
    subst hfound
    obtain ⟨oracle, world, hresult⟩ := hgives
    change (world.orFail oracle (.ok (world.store.session id), world.look thread.number)).1 = _
      at hresult
    unfold World.orFail at hresult
    split at hresult
    · cases hresult
    · rw [Except.ok.injEq] at hresult
      exact Store.sessionId_of_session hresult
  refine hfound.bind fun found hfound => ?_
  cases found with
  | none => exact trivial
  | some session => exact hfound session rfl

/-- A flood check appends strikes and writes to nobody. -/
theorem says_flooded (h : AllowsReports allowed) {session : Session}
    (hstrike : ∀ dispute party count last now,
      allowed (.append ⟨dispute, some session.sessionId, .floodStrike party count last, now⟩))
    (messages : List Message) (now : Int) :
    Says deployment thread allowed (flooded deployment session messages now) := by
  refine .bind (says_query h rfl) fun read _ => ?_
  obtain ⟨events, evaluations⟩ := read
  refine .foldEach (fun flooded party _ => ?_) false
  simp only []
  split
  · exact .bind (.perform (hstrike _ _ _ _ _) fun _ _ => trivial) fun _ _ => trivial
  · exact trivial

/-- The last reading is read, never written. -/
theorem says_lastReading (h : AllowsReports allowed) (session : Session)
    (messages : List Message) :
    Says deployment thread allowed (lastReading deployment session messages) := by
  refine .bind (says_query h rfl) fun ready _ => ?_
  split
  · exact trivial
  · refine .bind (says_query h rfl) fun read _ => ?_
    obtain ⟨last, openedBy⟩ := read
    cases last <;> cases openedBy <;> exact trivial

/-- Languages are set for the session of the turn alone. -/
theorem says_updateLanguages {session : Session}
    (hset : ∀ party lang now, allowed (.setLanguage session.sessionId party lang now))
    (facts : Facts) (now : Int) :
    Says deployment thread allowed (updateLanguages deployment session facts now) := by
  refine .foldEach (fun changed party _ => ?_) []
  split
  · exact .bind (.perform (hset _ _ _) fun _ _ => trivial) fun _ _ => trivial
  · exact trivial

/-- The questions to a party are templates one may ask, and their round is counted. -/
theorem says_askParty (h : AllowsReports allowed) {session : Session}
    (hask : ∀ party template, template.isAsked = true →
      MaySend deployment allowed session.sessionId party template)
    (hcount : ∀ party firstInTurn now,
      allowed (.countRound session.sessionId party firstInTurn now)) (next : NextQuestions)
    {templates : Party → List Template}
    (hasked : ∀ party, ∀ template ∈ templates party, template.isAsked = true) (now : Int)
    (firstInTurn : Bool) (party : Party) :
    Says deployment thread allowed
      (askParty deployment session next templates now firstInTurn party) := by
  refine .bind (.forEach fun template htemplate => ?_) fun _ _ => ?_
  · exact says_sendTemplate h (hask party template (hasked party template htemplate))
  · split
    · exact .bind (.perform (hcount _ _ _) fun _ _ => trivial) fun _ _ => trivial
    · exact trivial

/-- What a decision does is allowed when every action of a turn is: one case for each decision. -/
theorem says_act (h : AllowsBriefs deployment allowed) {session : Session}
    (hturn : MayTurn deployment allowed session.sessionId) (reading : TurnReading) {turn : Turn}
    (hasked : ∀ party, ∀ template ∈ turn.next.templates party, template.isAsked = true)
    (now : Int) :
    Says deployment thread allowed
      (act deployment session reading turn.next now turn.decide) := by
  have hexplains := turn.explains_decide
  cases haction : turn.decide with
  | ask buyer seller =>
    rw [haction] at hexplains
    obtain ⟨rfl, rfl⟩ := hexplains
    refine .bind (.foldEach (fun firstInTurn party _ => ?_) true) fun _ _ => trivial
    refine says_askParty h.reports hturn.ask hturn.countRound _
      (fun other template htemplate => ?_) now firstInTurn party
    cases other with
    | buyer => exact hasked .buyer template htemplate
    | seller => exact hasked .seller template htemplate
  | handoff reason =>
    rw [haction] at hexplains
    exact .bind (says_handOff h hturn.handOver _ (hturn.handOff _ _ _ rfl hexplains))
      fun _ _ => trivial
  | guide path => exact says_guide h hturn.guide reading (hturn.startGuiding _ _ _ rfl)
  | hold =>
    exact .bind (says_query h.reports rfl) fun started _ =>
      says_hold h.reports hturn.hold (hturn.recordHold _ _ rfl)
  | wait => exact trivial

/-- Deciding sets languages, stores the evaluation and does what was decided. -/
theorem says_decideAndAct (h : AllowsBriefs deployment allowed) {session : Session}
    (hturn : MayTurn deployment allowed session.sessionId) (messages : List Message)
    (phase : Phase) (state : JudgeState) (answers : Answers) (now : Int) :
    Says deployment thread allowed
      (decideAndAct deployment session messages phase state answers now) := by
  refine .bind (says_updateLanguages hturn.setLanguage _ now) fun changed _ => ?_
  refine .bind (makes_reload (h.query rfl)) fun current hcurrent => ?_
  rw [← hcurrent] at hturn
  refine .bind (says_query h.reports rfl) fun events _ => ?_
  refine .bind (.perform (hturn.evaluation _ rfl) fun _ _ => trivial) fun _ _ => ?_
  exact .bind (says_act h hturn _ (isAsked_plan _ messages changed) now) fun _ _ => trivial

/-- A judged turn is the judge's call and what is decided on its answer, or a hand-off without it.
-/
theorem says_judgeTurn (h : AllowsBriefs deployment allowed) {session : Session}
    (hturn : MayTurn deployment allowed session.sessionId) (messages : List Message)
    (phase : Phase) (state : JudgeState) (now : Int) :
    Says deployment thread allowed (judgeTurn deployment session messages phase state now) := by
  refine .bind (says_attempt (says_query h.reports rfl)) fun judged _ => ?_
  cases judged with
  | error failure =>
    exact .bind (says_handOff h hturn.handOver _ (hturn.handOff _ _ _ rfl nofun))
      fun _ _ => trivial
  | ok answers =>
    refine .bind (says_query h.reports rfl) fun newer _ => ?_
    split
    · exact trivial
    refine .bind (says_query h.reports rfl) fun moved _ => ?_
    split
    · exact trivial
    · exact says_decideAndAct h hturn messages phase state answers now

/-- A live turn is a flood's hand-off or a judged turn. -/
theorem says_liveTurn (h : AllowsBriefs deployment allowed) {session : Session}
    (hturn : MayTurn deployment allowed session.sessionId) (messages : List Message)
    (openedBy : Initiator) (phase : Phase) (now : Int) :
    Says deployment thread allowed
      (liveTurn deployment session messages openedBy phase now) := by
  unfold liveTurn
  simp only []
  split
  · exact trivial
  refine .bind (says_flooded h.reports hturn.strike messages now) fun flood _ => ?_
  split
  · refine .bind (says_lastReading h.reports session messages) fun last _ => ?_
    exact .bind (says_handOff h hturn.handOver _ (hturn.handOff _ _ _ rfl nofun))
      fun _ _ => trivial
  · exact says_judgeTurn h hturn messages phase _ now

/-- A mediating turn first asks whether the judge is ready. -/
theorem says_mediatingTurn (h : AllowsBriefs deployment allowed) {session : Session}
    (hturn : MayTurn deployment allowed session.sessionId) (messages : List Message)
    (openedBy : Initiator) (now : Int) :
    Says deployment thread allowed
      (mediatingTurn deployment session messages openedBy now) := by
  refine .bind (says_query h.reports rfl) fun ready _ => ?_
  split
  · exact trivial
  split
  · exact trivial
  · exact says_liveTurn h hturn messages openedBy _ now

/-- What a turn loads is the session of its id. -/
theorem makes_load (h : AllowsReports allowed) (id : SessionId) :
    (machine deployment).Makes thread allowed
      (fun loaded => ∀ session messages openedBy, loaded = some (session, messages, openedBy) →
        session.sessionId = id) (perform (.load id)) := by
  refine .perform (h.query rfl) fun loaded hgives session messages openedBy hloaded => ?_
  subst hloaded
  obtain ⟨oracle, world, hresult⟩ := hgives
  change (world.orFail oracle (.ok (world.store.load id), world.look thread.number)).1 = _
    at hresult
  unfold World.orFail at hresult
  split at hresult
  · cases hresult
  · rw [Except.ok.injEq] at hresult
    obtain ⟨found, hfound, hrest⟩ := Option.bind_eq_some_iff.mp hresult
    obtain ⟨dispute, -, heq⟩ := Option.map_eq_some_iff.mp hrest
    cases heq
    exact Store.sessionId_of_session hfound

/-- A whole turn, whatever state it finds the session in. -/
theorem says_runTurn (h : AllowsBriefs deployment allowed) {id : SessionId}
    (hturn : MayTurn deployment allowed id) (now : Int) :
    Says deployment thread allowed (runTurn deployment id now) := by
  refine .bind (makes_load h.reports id) fun loaded hloaded => ?_
  match loaded with
  | none => exact trivial
  | some (session, messages, openedBy) =>
    have hid := hloaded session messages openedBy rfl
    subst hid
    have mediating : Says deployment thread allowed
        (mediatingTurn deployment session messages openedBy now) :=
      says_mediatingTurn h hturn messages openedBy now
    simp only []
    split
    · exact .bind (says_forwardUpdates h.reports session now) fun _ _ => trivial
    · exact .bind (says_attempt (says_resendGuides h.reports hturn.guide)) fun _ _ => mediating
    · exact mediating

/-- A turn as the loop runs it: it joins afterwards, and asks for another where it was deferred. -/
theorem says_turnLogged (h : AllowsBriefs deployment allowed) {id : SessionId}
    (hturn : MayTurn deployment allowed id) (hjoin : ∀ again, allowed (.joinTurn again)) :
    Says deployment thread allowed (turnLogged deployment id) := by
  refine .bind (says_query h.reports rfl) fun now _ => ?_
  refine .bind (says_attempt (says_runTurn h hturn now)) fun outcome _ => ?_
  split
  · exact .perform (hjoin true) fun _ _ => trivial
  · exact .perform (hjoin false) fun _ _ => trivial

/-! ## Openings -/

/-- What an opening may say besides what it asks. -/
structure MayOpen (deployment : Deployment) (allowed : {β : Type} → Call β → Prop) : Prop where
  insert : ∀ id info order now, allowed (.insertSession id info order now)
  openChat : ∀ id, allowed (.openChat id)
  closeChat : ∀ id, allowed (.closeChat id)
  greet : ∀ id, ∀ opener ∈ openers, MaySend deployment allowed id opener.1 opener.2
  abandon : ∀ dispute id reason now, allowed (.abandon dispute id reason now)
  activate : ∀ dispute id now, allowed (.activate dispute id now)
  started : ∀ dispute, MayTell allowed dispute "mediation_started"
  opened : ∀ dispute id now, allowed (.append ⟨dispute, some id, .mediationOpened, now⟩)

/-- The solvers may be told that a mediation could not start. -/
structure MayGiveUp (allowed : {β : Type} → Call β → Prop) (dispute : DisputeId) : Prop where
  notice : MayTell allowed dispute "handoff"
  sent : ∀ now, allowed (.append ⟨dispute, none, .openingNoticeSent, now⟩)

/-- Creating a session fetches the order, stores the row and opens the chat. -/
theorem says_createSession (h : AllowsReports allowed)
    (hopen : MayOpen deployment allowed) (dispute : DisputeId) (info : SolverDisputeInfo)
    (now : Int) : Says deployment thread allowed (createSession dispute info now) := by
  unfold createSession
  split
  · exact trivial
  · refine .bind (says_query h rfl) fun facts _ => ?_
    refine .bind (.perform (hopen.insert _ _ _ _) fun _ _ => trivial) fun session _ => ?_
    exact .bind (.perform (hopen.openChat _) fun _ _ => trivial) fun _ _ => trivial

/-- The openers are the only templates of the greeting. -/
theorem says_greet (h : AllowsReports allowed) {session : Session}
    (hgreet : ∀ opener ∈ openers,
      MaySend deployment allowed session.sessionId opener.1 opener.2) :
    Says deployment thread allowed (greet deployment session) := by
  refine .forEach fun opener hopener => ?_
  unfold greetParty
  simp only [bind_eq]
  cases hrender : deployment.render deployment.settings.defaultLanguage opener.2 true
      session.amount with
  | error failure => exact trivial
  | ok text => exact says_sendWhen h _ session ⟨_, _, _, hrender⟩ (hgreet opener hopener)

/-- The notice that an opening failed is told to the solvers and recorded once somebody got it. -/
theorem says_sendOpeningNotice {dispute : DisputeId} (hgiveUp : MayGiveUp allowed dispute)
    (now : Int) :
    Says deployment thread allowed (sendOpeningNotice deployment dispute now) := by
  refine .bind (says_attempt (says_notifySolvers hgiveUp.notice now)) fun delivered _ => ?_
  cases delivered with
  | error failure => exact trivial
  | ok delivered =>
    simp only []
    split
    · exact trivial
    · exact .bind (says_attempt (.perform (hgiveUp.sent _) fun _ _ => trivial)) fun _ _ => trivial

/-- An abandoned opening is marked, its chat closed, and the solvers are told. -/
theorem says_abandon (hopen : MayOpen deployment allowed) {dispute : DisputeId}
    (hgiveUp : MayGiveUp allowed dispute) (session : Option Session) (reason : String)
    (now : Int) :
    Says deployment thread allowed (abandon deployment dispute session reason now) := by
  refine .bind (.perform (hopen.abandon _ _ _ _) fun _ _ => trivial) fun _ _ => ?_
  cases session with
  | none => exact .bind (says_sendOpeningNotice hgiveUp now) fun _ _ => trivial
  | some session =>
    exact .bind (.perform (hopen.closeChat _) fun _ _ => trivial) fun _ _ =>
      .bind (says_sendOpeningNotice hgiveUp now) fun _ _ => trivial

/-- Activation marks the session and tells the solvers that mediation started. -/
theorem says_activate (hopen : MayOpen deployment allowed) (dispute : DisputeId)
    (session : Session) (now : Int) :
    Says deployment thread allowed (activate deployment dispute session now) := by
  refine .bind (.perform (hopen.activate _ _ _) fun _ _ => trivial) fun _ _ => ?_
  refine .bind (says_notifySolvers (hopen.started dispute) now) fun _ _ => ?_
  exact .bind (.perform (hopen.opened _ _ _) fun _ _ => trivial) fun _ _ => trivial

/-- What follows a take. -/
theorem says_opening (h : AllowsReports allowed) (hopen : MayOpen deployment allowed)
    {dispute : DisputeId} (hgiveUp : MayGiveUp allowed dispute) (info : SolverDisputeInfo)
    (now : Int) :
    Says deployment thread allowed (do
      let created ← attempt (createSession dispute info now)
      match created with
      | .error reason => abandon deployment dispute none reason now
      | .ok session =>
        let greeted ← attempt (greet deployment session)
        match greeted with
        | .error failure =>
          abandon deployment dispute (some session) ("cannot reach the parties: " ++ failure) now
        | .ok () => activate deployment dispute session now) := by
  refine .bind (says_attempt (says_createSession h hopen dispute info now)) fun created _ => ?_
  cases created with
  | error reason => exact says_abandon hopen hgiveUp none reason now
  | ok session =>
    refine .bind (says_attempt (says_greet h (hopen.greet session.sessionId))) fun greeted _ => ?_
    cases greeted with
    | error failure => exact says_abandon hopen hgiveUp (some session) _ now
    | ok _ => exact says_activate hopen dispute session now

/-- A claim of a dispute reads its row and takes it. -/
theorem says_claim (h : AllowsReports allowed)
    (hclaim : ∀ id lifecycle hadSession, allowed (.claimTake id lifecycle hadSession))
    (dispute : DisputeId) : Says deployment thread allowed (claim dispute) := by
  refine .bind (says_query h rfl) fun known _ => ?_
  cases known with
  | none => exact trivial
  | some known => exact .perform (hclaim _ _ _) fun _ _ => trivial

/-- What an attempt to mediate may say besides what it asks. -/
structure MayConsider (deployment : Deployment) (allowed : {β : Type} → Call β → Prop) : Prop
    extends MayOpen deployment allowed where
  giveUp : ∀ dispute, MayGiveUp allowed dispute
  claim : ∀ id lifecycle hadSession, allowed (.claimTake id lifecycle hadSession)
  take : ∀ dispute, allowed (.takeDispute dispute)
  notOpened : ∀ dispute reason now,
    allowed (.append ⟨dispute, none, .mediationNotOpened reason, now⟩)
  release : ∀ dispute, allowed (.releaseTake dispute)

/-- Opening a dispute, from the claim to the greeting or to the notice that it failed. -/
theorem says_openDispute (h : AllowsReports allowed)
    (hconsider : MayConsider deployment allowed) (dispute : DisputeId) (now : Int) :
    Says deployment thread allowed (openDispute deployment dispute now) := by
  refine .bind (says_attempt (.perform (hconsider.take dispute) fun _ _ => trivial))
    fun taken _ => ?_
  cases taken with
  | error reason =>
    exact .bind (.perform (hconsider.notOpened _ _ _) fun _ _ => trivial) fun _ _ => trivial
  | ok info => exact says_opening h hconsider.toMayOpen (hconsider.giveUp dispute) info now

/-- Considering a dispute is claiming it and then opening it. -/
theorem says_consider (h : AllowsReports allowed)
    (hconsider : MayConsider deployment allowed) (dispute : DisputeId) (now : Int) :
    Says deployment thread allowed (consider deployment dispute now) := by
  refine .bind (says_attempt (says_claim h hconsider.claim dispute)) fun verdict _ => ?_
  match verdict with
  | .ok (.error reason) => exact trivial
  | .error failure => exact trivial
  | .ok (.ok ()) =>
    refine .bind (says_attempt (says_openDispute h hconsider dispute now)) fun outcome _ => ?_
    refine .bind (.perform (hconsider.release dispute) fun _ _ => trivial) fun _ _ => ?_
    cases outcome <;> exact trivial

/-- The pass over the disputes still open considers each of them. -/
theorem says_reconsider (h : AllowsReports allowed)
    (hconsider : MayConsider deployment allowed) (since now : Int) :
    Says deployment thread allowed (reconsider deployment since now) := by
  refine .bind (says_attempt (says_query h rfl)) fun waiting _ => ?_
  cases waiting with
  | error failure => exact trivial
  | ok waiting =>
    exact .forEach fun row _ => .bind (says_consider h hconsider _ now) fun _ _ => trivial

/-! ## The timers -/

/-- Opening the chat of a session again writes to nobody. -/
theorem says_chatOpen (h : AllowsReports allowed)
    (hopen : ∀ id, allowed (.openChat id)) (session : Session) :
    Says deployment thread allowed (chatOpen session) := by
  refine .bind (says_query h rfl) fun isOpen _ => ?_
  split
  · exact trivial
  · refine .bind (says_attempt (.perform (hopen _) fun _ _ => trivial)) fun opened _ => ?_
    cases opened <;> exact trivial

/-- The timers of one session remind a party or hand the session off, never for a flood. -/
theorem says_tickSession (h : AllowsBriefs deployment allowed) {session : Session}
    (hremind : ∀ party, MaySend deployment allowed session.sessionId party .reminder)
    (hnotice : MayHandOver deployment allowed session.sessionId)
    (hclaim : ∀ reason now, reason ≠ .flood → allowed (.handOff session reason now)) (now : Int) :
    Says deployment thread allowed (tickSession deployment session now) := by
  refine .bind (says_query h.reports rfl) fun read _ => ?_
  obtain ⟨messages, history⟩ := read
  simp only []
  split
  · exact trivial
  · exact .forEach fun party _ => says_sendTemplate h.reports (hremind party)
  · next reason hreason =>
    refine .bind (says_lastReading h.reports session messages) fun last _ => ?_
    have hother : reason ≠ .flood := by
      rintro rfl
      exact Clocks.check_ne_flood _ _ hreason
    exact .bind (says_handOff h hnotice last (hclaim _ _ hother)) fun _ _ => trivial

/-- A brief is retried within what a first brief may tell. -/
theorem says_retryBrief (h : AllowsBriefs deployment allowed) (session : Session)
    (messages : List Message) (now : Int) (brief : Int × Subject) :
    Says deployment thread allowed (retryBrief deployment session messages now brief) := by
  refine .bind (says_lastReading h.reports session messages) fun last _ => ?_
  refine .bind (says_briefSolvers h session _ last now) fun delivered _ => ?_
  split
  · exact says_briefDelivered h.reports session _ now
  · exact trivial

/-- The notices, guides and hold notices the parties miss are the ones they were due. -/
theorem says_retryParties (h : AllowsReports allowed) {session : Session}
    (hnotice : MayHandOver deployment allowed session.sessionId)
    (hguide : MayGuide deployment allowed session.sessionId)
    (hhold : MayHold deployment allowed session.sessionId) (messages : List Message)
    (held : Option Hold) :
    Says deployment thread allowed (retryParties deployment session messages held) := by
  unfold retryParties
  split
  · split
    · exact trivial
    · refine .forEach fun party _ => ?_
      unfold retryNotice
      split
      · exact trivial
      · exact .bind (says_attempt (says_sendTemplate h (hnotice party))) fun _ _ => trivial
  · exact .bind (says_resendGuides h hguide) fun _ _ => trivial
  · split
    · exact says_sendHoldNotices h hhold _
    · exact trivial
  · exact trivial

/-- A retry writes again what a session may write, to the parties and to the solvers. -/
theorem says_retryUndelivered (h : AllowsBriefs deployment allowed) {session : Session}
    (hnotice : MayHandOver deployment allowed session.sessionId)
    (hguide : MayGuide deployment allowed session.sessionId)
    (hhold : MayHold deployment allowed session.sessionId) (now : Int) :
    Says deployment thread allowed (retryUndelivered deployment session now) := by
  refine .bind (says_query h.reports rfl) fun read _ => ?_
  obtain ⟨messages, history⟩ := read
  simp only []
  split
  · exact trivial
  · refine .bind (.forEach fun brief _ => says_retryBrief h session messages now brief)
      fun _ _ => ?_
    exact says_retryParties h.reports hnotice hguide hhold messages _

/-- The retry of the opening notices tells the solvers of disputes given up. -/
theorem says_retryOpeningNotices (h : AllowsReports allowed)
    (hgiveUp : ∀ dispute, MayGiveUp allowed dispute) (now : Int) :
    Says deployment thread allowed (retryOpeningNotices deployment now) := by
  refine .bind (says_attempt (says_query h rfl)) fun pending _ => ?_
  cases pending with
  | error failure => exact trivial
  | ok pending =>
    refine .forEach fun dispute _ => .bind (says_attempt ?_) fun _ _ => trivial
    refine .bind (says_query h rfl) fun resolved _ => ?_
    split
    · exact trivial
    · exact says_sendOpeningNotice (hgiveUp dispute) now

/-- What a pass of the timers may say about a session besides what it asks. -/
structure MayTime (deployment : Deployment) (allowed : {β : Type} → Call β → Prop)
    (id : SessionId) : Prop where
  handOver : MayHandOver deployment allowed id
  guide : MayGuide deployment allowed id
  hold : MayHold deployment allowed id

/-- The tick of one live session: its chat, its timers and its retries. -/
theorem says_tickLive (h : AllowsBriefs deployment allowed) {session : Session}
    (hopen : ∀ id, allowed (.openChat id))
    (hremind : ∀ party, MaySend deployment allowed session.sessionId party .reminder)
    (htime : MayTime deployment allowed session.sessionId)
    (hclaim : ∀ reason now, reason ≠ .flood → allowed (.handOff session reason now)) (now : Int) :
    Says deployment thread allowed (tickLive deployment now session) := by
  refine .bind (says_attempt ?_) fun _ _ => .bind (says_attempt ?_) fun _ _ => trivial
  · split
    · refine .bind (says_chatOpen h.reports hopen session) fun isOpen _ => ?_
      split
      · exact says_tickSession h hremind htime.handOver hclaim now
      · exact .bind (says_handOff h htime.handOver none (hclaim _ _ nofun)) fun _ _ => trivial
    · exact trivial
  · exact says_retryUndelivered h htime.handOver htime.guide htime.hold now

/-- A tick keeps to what its sessions, its ends and its notices are allowed. -/
theorem says_tick (h : AllowsBriefs deployment allowed) (hopen : ∀ id, allowed (.openChat id))
    (hremind : ∀ id party, MaySend deployment allowed id party .reminder)
    (htime : ∀ id, MayTime deployment allowed id)
    (hclaim : ∀ session reason now, reason ≠ .flood → allowed (.handOff session reason now))
    (hclose : MayClose deployment allowed) (hgiveUp : ∀ dispute, MayGiveUp allowed dispute)
    (now : Int) :
    Says deployment thread allowed (tick deployment now) := by
  refine .bind (says_query h.reports rfl) fun live _ => ?_
  refine .bind (.forEach fun session _ => ?_) fun _ _ => ?_
  · exact says_tickLive h hopen (hremind _) (htime _) (hclaim session) now
  · refine .bind (says_finishPending h.reports hclose.finishes _ now) fun _ _ => ?_
    exact says_retryOpeningNotices h.reports hgiveUp now

/-! ## The notifier -/

/-- The notifications that tell a solver about a dispute. -/
def disputeNotices : List String := ["new_dispute", "taken", "reminder"]

/-- What the notifier may say besides what it asks. -/
structure MayNotify (allowed : {β : Type} → Call β → Prop) : Prop where
  tell : ∀ dispute, ∀ notification ∈ disputeNotices, MayTell allowed dispute notification
  record : ∀ dispute now, allowed (.record dispute now)
  markNotified : ∀ id now, allowed (.markNotified id now)
  spawn : ∀ task, allowed (.spawn task)

/-- A dispute event is recorded, told to the solvers, and may start a task. -/
theorem says_handleEvent (h : AllowsReports allowed) (hnotify : MayNotify allowed)
    (dispute : DisputeEvent) (now : Int) :
    Says deployment thread allowed (handleEvent deployment dispute now) := by
  refine .bind (.perform (hnotify.record _ _) fun _ _ => trivial) fun change _ => ?_
  split
  · refine .bind (.bind (says_notifySolvers (hnotify.tell _ _ (by decide)) now)
      fun delivered _ => ?_) fun notified (_ : True) => ?_
    · split
      · exact .bind (.perform (hnotify.markNotified _ _) fun _ _ => trivial) fun _ _ => trivial
      · exact trivial
    · split
      · exact .bind (.perform (hnotify.spawn _) fun _ _ => trivial) fun _ _ => trivial
      · exact trivial
  · refine .bind (.bind (says_query h rfl) fun taking _ => ?_) fun _ (_ : True) => ?_
    · split
      · exact trivial
      · exact says_query h rfl
    · exact .bind (says_notifySolvers (hnotify.tell _ _ (by decide)) now) fun _ _ => trivial
  · exact .bind (.perform (hnotify.spawn _) fun _ _ => trivial) fun _ _ => trivial
  · exact trivial

/-- The reminders are told to the solvers of the disputes still waiting for one. -/
theorem says_remind (h : AllowsReports allowed) (hnotify : MayNotify allowed)
    (renotifyAfter now : Int) :
    Says deployment thread allowed (remind deployment renotifyAfter now) := by
  refine .bind (says_query h rfl) fun due _ => .forEach fun row _ => ?_
  refine .bind (says_query h rfl) fun current _ => ?_
  split
  · exact trivial
  · next found _ =>
    have hnotice : (if found.lifecycle = .new then "new_dispute" else "reminder") ∈
        disputeNotices := by
      split <;> decide
    simp only []
    refine .bind (says_notifySolvers (hnotify.tell _ _ hnotice) now) fun delivered _ => ?_
    split
    · refine .bind (.perform (hnotify.markNotified _ _) fun _ _ => trivial) fun _ _ => ?_
      split
      · exact .perform (hnotify.spawn _) fun _ _ => trivial
      · exact trivial
    · exact trivial

/-- Resuming opens the chats of the live sessions again. -/
theorem says_resume (h : AllowsReports allowed) (hopen : ∀ id, allowed (.openChat id)) :
    Says deployment thread allowed resume := by
  refine .bind (says_query h rfl) fun live _ => .forEach fun session _ => ?_
  exact .bind (says_attempt (.perform (hopen _) fun _ _ => trivial)) fun _ _ => trivial

/-! ## The tasks -/

/-- What the task may say besides what it asks. -/
def MayRun (deployment : Deployment) (allowed : {β : Type} → Call β → Prop) : Task → Prop
  | .consider _ => MayConsider deployment allowed
  | .judgeChecks _ => MayConsider deployment allowed ∧ allowed .setReady
  | .turn id => MayTurn deployment allowed id ∧ ∀ again, allowed (.joinTurn again)
  | .tick => (∀ id, allowed (.openChat id)) ∧
      (∀ id party, MaySend deployment allowed id party .reminder) ∧
      (∀ id, MayTime deployment allowed id) ∧
      (∀ session reason now, allowed (.handOff session reason now)) ∧
      MayClose deployment allowed ∧ (∀ dispute, MayGiveUp allowed dispute) ∧ allowed .joinTick
  | .handleEvent _ | .remind _ => MayNotify allowed
  | .finish _ _ _ | .finishPending => MayClose deployment allowed
  | .resume => ∀ id, allowed (.openChat id)

/-- What a task says that is no turn and no pass of the timers: it asks for no brief. -/
theorem says_others (h : AllowsReports allowed) {task : Task} (hturn : ∀ id, task ≠ .turn id)
    (htick : task ≠ .tick) (hrun : MayRun deployment allowed task) :
    Says deployment thread allowed (program deployment task) := by
  cases task with
  | consider dispute =>
    exact .bind (says_query h rfl) fun now _ =>
      .bind (says_consider h hrun dispute now) fun _ _ => trivial
  | judgeChecks started =>
    exact .bind (.perform hrun.2 fun _ _ => trivial) fun _ _ =>
      .bind (says_query h rfl) fun now _ => says_reconsider h hrun.1 started now
  | turn id => exact absurd rfl (hturn id)
  | tick => exact absurd rfl htick
  | handleEvent dispute =>
    exact .bind (says_query h rfl) fun now _ =>
      .bind (says_handleEvent h hrun dispute now) fun _ _ => trivial
  | remind renotifyAfter =>
    exact .bind (says_query h rfl) fun now _ => says_remind h hrun renotifyAfter now
  | finish dispute status byParties =>
    exact .bind (says_query h rfl) fun now _ =>
      .bind (says_finish h hrun.finishes dispute status byParties now) fun _ _ => trivial
  | finishPending =>
    exact .bind (says_query h rfl) fun now _ => says_finishPending h hrun.finishes _ now
  | resume => exact says_resume h hrun

/-- **What a task says.** -/
theorem says_program (h : AllowsBriefs deployment allowed) {task : Task}
    (hrun : MayRun deployment allowed task) :
    Says deployment thread allowed (program deployment task) := by
  cases task with
  | turn id => exact says_turnLogged h hrun.1 hrun.2
  | tick =>
    obtain ⟨hopen, hremind, htime, hclaim, hclose, hgiveUp, hjoin⟩ := hrun
    exact .bind (says_query h.reports rfl) fun now _ =>
      .bind (says_attempt (says_tick h hopen hremind htime
        (fun session reason now _ => hclaim session reason now) hclose hgiveUp now)) fun _ _ =>
        .perform hjoin fun _ _ => trivial
  | _ => exact says_others h.reports nofun nofun hrun

end Serbero
