import Serbero.Runtime.Intros
import Serbero.Runtime.Taking
import Serbero.Runtime.Turns

/-! # The disclosure comes first

The openings and the one sender of templates decide about the intro each on its own; the closing
thanks never has one. -/

namespace Serbero

open Pool Relation
open Pool.Program

variable {deployment : Deployment} {condition : Condition Call Task Oracle Happening World}
  {thread : Thread Task}

/-! ## Everything else -/

/-- The call stores no message and ends no opening. -/
def wordless {β : Type} (call : Call β) : Prop :=
  match call with
  | .insertMessage _ | .activate _ _ _ => False
  | _ => True

/-- Storing no message, a call has nothing to know. -/
theorem suffices_wordless (fact : World → Prop) :
    Suffices (disclosureExtension deployment condition) thread wordless fact := by
  intro β call world hcall _ _
  cases call with
  | insertMessage new => exact absurd hcall not_false
  | activate dispute id now => exact absurd hcall not_false
  | _ => trivial

/-- What the solvers are told is stored as no message. -/
theorem tell_wordless (dispute : DisputeId) (notification : String) :
    MayTell wordless dispute notification := by
  intro β call htells
  cases call <;> trivial

/-- Briefs and the queries behind them store no message. -/
theorem briefs_wordless (deployment : Deployment) : AllowsBriefs deployment wordless where
  query {_ call} hquery := by cases call <;> trivial
  briefs {_ call} hbriefs := by
    rcases hbriefs with ⟨dispute, notification, -, htells⟩ | hbriefs
    · exact tell_wordless dispute notification htells
    · cases call <;> trivial

/-- Giving a dispute up stores no message. -/
theorem giveUp_wordless (dispute : DisputeId) : MayGiveUp wordless dispute :=
  ⟨tell_wordless _ _, fun _ => trivial⟩

/-- Nor do the notifications. -/
theorem notify_wordless : MayNotify wordless :=
  ⟨fun _ _ _ => tell_wordless _ _, fun _ _ => trivial, fun _ _ => trivial, fun _ => trivial⟩

/-- The program keeps known that both parties were written to, and writes to them as it must. -/
abbrev Introduces (deployment : Deployment)
    (condition : Condition Call Task Oracle Happening World) (thread : Thread Task)
    (id : SessionId) {α : Type} (program : Daemon α) : Prop :=
  (disclosureExtension deployment condition).news.Keeps thread
    (fun world => world.store.Greeted id) program

/-- That both parties were written to is not forgotten. -/
theorem lasting_greeted (id : SessionId) :
    (disclosureExtension deployment condition).news.Lasting thread anyCall
      fun world => world.store.Greeted id where
  rely h hrely := h.mono hrely.1.follows.log.messages
  call _ _ _ _ h := h.mono (performCall_grows _ _ _ _ _).messages

/-- A program that stores no message keeps known what was. -/
theorem introduces_of_makes {id : SessionId} {α : Type} {program : Daemon α}
    (h : Says deployment thread wordless program) :
    Introduces deployment condition thread id program :=
  keeps_of_says ((lasting_greeted id).of_imp fun _ => trivial)
    (fun hcall hinv hfact => suffices_wordless (fun world => world.store.Greeted id) hcall hinv
      hfact) h

/-- So does one that returns. -/
theorem introduces_done {id : SessionId} {α : Type} (value : α) :
    Introduces deployment condition thread id (.done value : Daemon α) :=
  .done (lasting_greeted id) value

/-! ## Sending -/

/-- The call opens a chat or is part of a send, once it was decided what to send. -/
def stills {β : Type} (call : Call β) : Prop :=
  match call with
  | .openChat _ | .wrap | .gate _ _ | .sendEvent _ | .insertMessage _ => True
  | _ => False

/-- Nobody looks while a message is sent. -/
theorem lastLook_stills {β : Type} {call : Call β} (hcall : stills call) (oracle : Oracle)
    (world : World) (number : Nat) :
    (performCall deployment thread call oracle world).2.lastLook number =
      world.lastLook number := by
  refine lastLook_of_looks (performCall_unlooked deployment thread ?_ oracle world) number
  cases call with
  | _ => first | rfl | exact hcall.elim

/-- The thread looked last when this held of the store, which has only more messages by now. -/
def World.LookedAt (number : Nat) (property : Store → Prop) (world : World) : Prop :=
  ∃ seen, world.lastLook number = some seen ∧ seen.messages <+: world.store.messages ∧
    property seen

/-- What the thread saw last it still knows when it stores the message. -/
theorem lasting_lookedAt (property : Store → Prop) :
    (disclosureExtension deployment condition).news.Lasting thread stills
      (World.LookedAt thread.number property) := by
  constructor
  · rintro world later ⟨seen, hseen, hmessages, hproperty⟩ hrely
    exact ⟨seen, hrely.2.trans hseen, hmessages.trans hrely.1.follows.log.messages, hproperty⟩
  · rintro β call oracle world hcall - - - ⟨seen, hseen, hmessages, hproperty⟩
    exact ⟨seen, (lastLook_stills hcall oracle world _).trans hseen,
      hmessages.trans (performCall_grows _ _ _ _ _).messages, hproperty⟩

/-- Something is stored for the party. -/
def Store.Wrote (store : Store) (id : SessionId) (party : Party) : Prop :=
  ∃ message ∈ store.messages, message.sessionId = id ∧ message.isTo party = true

/-- What was stored for a party stays stored. -/
theorem Store.Wrote.mono {store later : Store} {id : SessionId} {party : Party}
    (h : store.Wrote id party) (hmessages : store.messages <+: later.messages) :
    later.Wrote id party := by
  obtain ⟨message, hmessage, hrest⟩ := h
  exact ⟨message, hmessages.subset hmessage, hrest⟩

/-- A message that was stored, or was there, is stored. -/
theorem wrote_of_insertMessage {new : NewMessage} {oracle : Oracle} {world : World}
    {inserted : Bool}
    (hok : (performCall deployment thread (.insertMessage new) oracle world).1 = .ok inserted)
    (hdirection : new.direction = .outbound) :
    (performCall deployment thread (.insertMessage new) oracle world).2.store.Wrote
      new.sessionId new.party := by
  cases hfails : oracle.fails with
  | some failure =>
    simp only [performCall, World.orFail, hfails] at hok
    cases hok
  | none =>
    cases hresult : world.store.insertMessageIfNew new with
    | error failure =>
      have hwrites : (world.endSending thread.number new).store.insertMessageIfNew new =
          .error failure := hresult
      simp only [performCall, World.orFail, hfails, hwrites] at hok
      cases hok
    | ok stored =>
      obtain ⟨found, store⟩ := stored
      have hwrites : (world.endSending thread.number new).store.insertMessageIfNew new =
          .ok (found, store) := hresult
      simp only [performCall, World.orFail, hfails, hwrites]
      change store.Wrote new.sessionId new.party
      rcases (Store.insertMessageIfNew_eq_ok hresult).2 with ⟨-, rfl, row, hrow, hid, hto, hparty, -⟩ | ⟨-, rfl⟩
      · exact ⟨row, hrow, hid, by rw [Message.isTo, hto, hparty, hdirection]; simp⟩
      · refine ⟨_, List.mem_append_right _ List.mem_cons_self, rfl, ?_⟩
        simp [Message.isTo, NewMessage.row, hdirection]

/-- Sending a message that may be stored: if nothing fails, something is stored for the party. -/
theorem sendWhen_introduces {fact : World → Prop} (rule : GateRule) (session : Session)
    (message : Outbound)
    (hfact : (disclosureExtension deployment condition).news.Lasting thread stills fact)
    (hstore : ∀ world createdAt, fact world → MayStore deployment thread.number
      { sessionId := session.sessionId
        direction := .outbound
        party := message.party
        templateId := some message.template
        lang := some message.lang
        content := message.text
        attachments := 0
        innerEventId := .serbero createdAt message.text
        createdAt := createdAt } world) :
    (disclosureExtension deployment condition).news.Triple thread fact
      (sendWhen rule session message) fun result world => fact world ∧
        (result = .ok () → world.store.Wrote session.sessionId message.party) := by
  have insertion : ∀ new, stills (.insertMessage new) := fun _ => trivial
  have still : ∀ {α : Type} {call : Call α}, stills call → wordless call →
      (disclosureExtension deployment condition).news.Keeps thread fact (perform call) :=
    fun hcall hother => .perform hfact hcall fun _ hinv hknown =>
      suffices_wordless fact hother hinv hknown
  have failed : ∀ failure world, fact world → fact world ∧
      ((.error failure : Except String Unit) = .ok () →
        world.store.Wrote session.sessionId message.party) :=
    fun failure world hknown => ⟨hknown, fun hok => by cases hok⟩
  -- The time, the gate and the relay come first; none of them writes a message.
  refine Spec.Triple.bind _ (still trivial trivial) (fun createdAt => ?_)
    fun failure world _ hknown => failed failure world hknown
  refine Spec.Triple.bind _ (still trivial trivial) (fun _ => ?_)
    fun failure world _ hknown => failed failure world hknown
  refine Spec.Triple.bind _ (still trivial trivial) (fun _ => ?_)
    fun failure world _ hknown => failed failure world hknown
  refine Spec.Triple.bind (fun result world => fact world ∧
    ∀ inserted, result = .ok inserted → world.store.Wrote session.sessionId message.party)
    (.perform hfact.rely (fun world _ hknown => hstore world createdAt hknown) ?_)
    (fun inserted => ?_) fun failure world _ hknown => failed failure world hknown.1
  -- Once the row is stored, the session has written to the party.
  · intro world oracle later hinv hknown hcond hrely _
    refine ⟨hfact.rely (hfact.call (insertion _) hinv ?_ hcond hknown) hrely,
      fun inserted hok => ?_⟩
    · exact hstore world createdAt hknown
    · exact (wrote_of_insertMessage hok rfl).mono hrely.1.follows.log.messages
  · refine .done ?_ fun _ _ hknown => ⟨hknown.1, fun _ => hknown.2 inserted rfl⟩
    exact fun hknown hrely => ⟨hfact.rely hknown.1 hrely,
      fun hok => (hknown.2 hok).mono hrely.1.follows.log.messages⟩

/-- What a task that sends a template saw before. -/
def World.Decided (number : Nat) (session : Session) (party : Party) (lang : String)
    (withIntro : Bool) (world : World) : Prop :=
  world.LookedAt number fun seen =>
    (withIntro = true → seen.writtenIn session.sessionId party lang = []) ∧
      (withIntro = false → seen.writtenIn session.sessionId party lang ≠ [])

/-- Where both parties were written to, the intro is decided on what was stored at the look. -/
theorem needsIntro_spec (session : Session) (party : Party) (lang : String) :
    (disclosureExtension deployment condition).news.Learns thread
      (fun world => world.store.Greeted session.sessionId)
      (perform (.read fun store => needsIntro (store.listMessages session.sessionId) party lang))
      (World.Decided thread.number session party lang) := by
  have hquery : ∀ oracle world, performCall deployment thread (.read fun store =>
      needsIntro (store.listMessages session.sessionId) party lang) oracle world =
        world.orFail oracle (.ok (needsIntro (world.store.listMessages session.sessionId) party lang),
          world.look thread.number) := fun _ _ => rfl
  refine .perform (lasting_greeted _).rely (fun _ _ _ => trivial) ?_
  intro world oracle later hinv hknown hcond hrely _
  refine ⟨(lasting_greeted _).rely (hknown.mono (performCall_grows _ _ _ _ _).messages) hrely, ?_⟩
  intro withIntro hvalue
  refine (lasting_lookedAt _).rely ?_ hrely
  change (performCall deployment thread _ oracle world).1 = _ at hvalue
  change World.LookedAt thread.number _ (performCall deployment thread _ oracle world).2
  rw [hquery] at hvalue ⊢
  unfold World.orFail at hvalue ⊢
  split at hvalue
  · cases hvalue
  · refine ⟨world.store, world.lastLook_look thread.number, List.prefix_rfl, ?_⟩
    rw [Except.ok.injEq] at hvalue
    rw [← hvalue, Store.needsIntro_iff hknown, ← Bool.not_eq_true, Store.needsIntro_iff hknown]
    exact ⟨id, id⟩

/-- Sending a template to a party of a session whose parties were both written to. -/
theorem sendTemplate_introduces (session : Session) (party : Party) {template : Template}
    (hother : template ≠ .intro) :
    Introduces deployment condition thread session.sessionId
      (sendTemplate deployment session party template) := by
  have hgreeted : (disclosureExtension deployment condition).news.Lasting thread stills
      fun world => world.store.Greeted session.sessionId :=
    (lasting_greeted _).of_imp fun _ => trivial
  refine Spec.Learns.bind _ (needsIntro_spec session party (languageOf deployment session party))
    fun withIntro => ?_
  have hdecided : (disclosureExtension deployment condition).news.Lasting thread stills
      (World.Decided thread.number session party (languageOf deployment session party) withIntro) :=
    lasting_lookedAt _
  have hfact := hgreeted.and hdecided
  -- A text that does not render is not sent, so nothing is disclosed.
  cases hrender : deployment.render (languageOf deployment session party) template withIntro
      session.amount with
  | error failure =>
    simp only [renderFor, hrender]
    exact .raise hfact failure
  | ok text =>
    have hstore : ∀ world createdAt, (world.store.Greeted session.sessionId ∧
        World.Decided thread.number session party (languageOf deployment session party) withIntro
          world) → MayStore deployment thread.number
          { sessionId := session.sessionId
            direction := .outbound
            party := party
            templateId := some template
            lang := some (languageOf deployment session party)
            content := text
            attachments := 0
            innerEventId := .serbero createdAt text
            createdAt := createdAt } world := by
      -- The intro is decided by what this session looked at, and rows written then are still there.
      rintro world createdAt ⟨-, seen, hseen, hmessages, hfresh, hwritten⟩
      refine ⟨template, _, withIntro, session.amount, rfl, rfl, hother, hrender,
        fun hintro => ⟨seen, hseen, hfresh hintro⟩, fun hplain => .inr ?_⟩
      obtain ⟨message, hmessage⟩ := List.exists_mem_of_ne_nil _ (hwritten hplain)
      rw [Store.mem_writtenIn] at hmessage
      exact List.ne_nil_of_mem (Store.mem_writtenIn.mpr
        ⟨hmessages.subset hmessage.1, hmessage.2⟩)
    have hsend : ∀ rule, (disclosureExtension deployment condition).news.Keeps thread
        (fun world => world.store.Greeted session.sessionId ∧ World.Decided thread.number session
          party (languageOf deployment session party) withIntro world)
        (sendWhen rule session
          ⟨party, text, template, languageOf deployment session party⟩) := fun rule =>
      (sendWhen_introduces rule session ⟨party, text, template, languageOf deployment session party⟩
        hfact hstore).consequence (fun _ _ hknown => hknown) fun _ _ _ hknown => hknown.1
    simp only [renderFor, hrender]
    change (disclosureExtension deployment condition).news.Keeps thread _
      (if template = .handoffNotice then _ else _)
    split
    · exact hsend .live
    · exact hsend .mediating

/-! ## Turns and passes -/

section

variable {id : SessionId}

/-- Trying to send a template, whatever comes of it. -/
theorem attempt_introduces (session : Session) (party : Party) {template : Template}
    (hother : template ≠ .intro) {α : Type} {next : Except String Unit → Daemon α}
    (hnext : ∀ sent, Introduces deployment condition thread session.sessionId (next sent)) :
    Introduces deployment condition thread session.sessionId
      ((attempt (sendTemplate deployment session party template)).bind next) :=
  .bind (.attempt (sendTemplate_introduces session party hother)) hnext

/-- The hand-off notice, unless the party has it. -/
theorem tellHandoff_introduces (session : Session) (party : Party) :
    Introduces deployment condition thread session.sessionId
      (tellHandoff deployment session party) := by
  have hbriefs := briefs_wordless deployment
  refine .bind (introduces_of_makes (says_received hbriefs.reports session party _)) fun told => ?_
  split
  · exact introduces_done ()
  · exact attempt_introduces session party (by decide) fun _ => introduces_done ()

/-- A hand-off: the brief stores nothing, the notices follow. -/
theorem handOff_introduces (session : Session) (reason : HandoffReason)
    (reading : Option TurnReading) (now : Int) :
    Introduces deployment condition thread session.sessionId
      (handOff deployment session reason reading now) := by
  have hbriefs := briefs_wordless deployment
  have htell : Introduces deployment condition thread session.sessionId
      ((forEach (tellHandoff deployment session) Party.both).bind fun _ =>
        (.done true : Daemon Bool)) :=
    .bind (.forEach (lasting_greeted _) fun party _ => tellHandoff_introduces session party)
      fun _ => introduces_done true
  refine .bind (introduces_of_makes (.perform trivial fun _ _ => trivial)) fun claimed => ?_
  cases claimed with
  | none => exact introduces_done false
  | some pending =>
    refine .bind (introduces_of_makes (says_briefSolvers hbriefs session _ reading now))
      fun delivered => ?_
    split
    · exact .bind (introduces_of_makes (says_briefDelivered hbriefs.reports session pending now))
        fun _ => htell
    · exact htell

/-- No guide is the intro. -/
theorem ne_intro_of_guides {path : Path} {entry : Party × Template} (h : entry ∈ guides path) :
    entry.2 ≠ .intro := by
  cases path <;> simp only [guides, List.mem_cons, List.not_mem_nil, or_false] at h <;>
    rcases h with rfl | rfl <;> decide

/-- The guides of a path. -/
theorem sendGuides_introduces (session : Session) (path : Path) :
    Introduces deployment condition thread session.sessionId
      (sendGuides deployment session path) := by
  have hbriefs := briefs_wordless deployment
  refine .foldEach (lasting_greeted _) (fun missing entry hentry => ?_) 0
  refine .bind (introduces_of_makes (says_received hbriefs.reports session _ _)) fun got => ?_
  split
  · exact introduces_done missing
  · refine attempt_introduces session entry.1 (ne_intro_of_guides hentry) fun sent => ?_
    cases sent with
    | ok sent => exact introduces_done missing
    | error failure => exact introduces_done (missing + 1)

/-- The guides that are missing. -/
theorem resendGuides_introduces (session : Session) :
    Introduces deployment condition thread session.sessionId
      (resendGuides deployment session) := by
  refine .bind (introduces_of_makes (says_query (briefs_wordless deployment).reports rfl))
    fun path => ?_
  cases path with
  | some path => exact sendGuides_introduces session path
  | none => exact introduces_done 0

/-- Guiding: the brief stores nothing, the guides follow. -/
theorem guide_introduces (session : Session) (path : Path) (reading : TurnReading) (now : Int) :
    Introduces deployment condition thread session.sessionId
      (guide deployment session path reading now) := by
  have hbriefs := briefs_wordless deployment
  have hguides : Introduces deployment condition thread session.sessionId
      ((sendGuides deployment session path).bind fun _ => (.done () : Daemon Unit)) :=
    .bind (sendGuides_introduces session path) fun _ => introduces_done ()
  refine .bind (introduces_of_makes (.perform trivial fun _ _ => trivial)) fun claimed => ?_
  cases claimed with
  | none => exact introduces_done ()
  | some pending =>
    refine .bind (introduces_of_makes (says_briefSolvers hbriefs session _ _ now))
      fun delivered => ?_
    split
    · exact .bind (introduces_of_makes (says_briefDelivered hbriefs.reports session pending now))
        fun _ => hguides
    · exact hguides

/-- The hold notices. -/
theorem sendHoldNotices_introduces (session : Session) (cutoff : Int) :
    Introduces deployment condition thread session.sessionId
      (sendHoldNotices deployment session cutoff) := by
  refine .forEach (lasting_greeted _) fun party _ => ?_
  refine .bind (introduces_of_makes
    (says_attempt (says_query (briefs_wordless deployment).reports rfl))) fun got => ?_
  split
  · exact attempt_introduces session party (by decide) fun _ => introduces_done ()
  · exact introduces_done ()

/-- One case for each decision. -/
theorem act_introduces (session : Session) (reading : TurnReading) {turn : Turn}
    (hasked : ∀ party, ∀ template ∈ turn.next.templates party, template.isAsked = true)
    (now : Int) :
    Introduces deployment condition thread session.sessionId
      (act deployment session reading turn.next now turn.decide) := by
  have hexplains := turn.explains_decide
  have hbriefs := briefs_wordless deployment
  cases haction : turn.decide with
  | ask buyer seller =>
    rw [haction] at hexplains
    obtain ⟨rfl, rfl⟩ := hexplains
    refine .bind (.foldEach (lasting_greeted _) (fun firstInTurn party _ => ?_) true) fun _ =>
      introduces_done ()
    refine .bind (.forEach (lasting_greeted _) fun template htemplate => ?_) fun _ => ?_
    -- What is asked is never an intro of its own.
    · have hask : template.isAsked = true := by
        cases party with
        | buyer => exact hasked .buyer template htemplate
        | seller => exact hasked .seller template htemplate
      refine sendTemplate_introduces session party ?_
      rintro rfl
      exact absurd hask (by decide)
    · split
      · exact .bind (introduces_of_makes (.perform trivial fun _ _ => trivial)) fun _ =>
          introduces_done false
      · exact introduces_done firstInTurn
  | handoff reason =>
    exact .bind (handOff_introduces session reason _ now) fun _ => introduces_done ()
  | guide path => exact guide_introduces session path reading now
  | hold =>
    refine .bind (introduces_of_makes (says_query hbriefs.reports rfl)) fun started => ?_
    exact .bind (introduces_of_makes (.perform trivial fun _ _ => trivial)) fun cutoff =>
      sendHoldNotices_introduces session cutoff
  | wait => exact introduces_done ()

/-- What the decision rests on is read before anything is sent. -/
theorem decideAndAct_introduces (session : Session) (messages : List Message) (phase : Phase)
    (state : JudgeState) (answers : Answers) (now : Int) :
    Introduces deployment condition thread session.sessionId
      (decideAndAct deployment session messages phase state answers now) := by
  have hbriefs := briefs_wordless deployment
  have hlanguages : ∀ facts, Says deployment thread wordless
      (updateLanguages deployment session facts now) := by
    intro facts
    refine .foldEach (fun changed party _ => ?_) []
    split
    · exact .bind (.perform trivial fun _ _ => trivial) fun _ _ => trivial
    · exact trivial
  refine .bind (introduces_of_makes (hlanguages _)) fun changed => ?_
  refine Spec.keeps_bind_of_makes ((lasting_greeted _).of_imp fun _ => trivial)
    (fun hcall hinv hfact => suffices_wordless
      (fun world => world.store.Greeted session.sessionId) hcall hinv hfact)
    (makes_reload (hbriefs.query rfl)) fun current hcurrent => ?_
  rw [← hcurrent]
  refine .bind (introduces_of_makes (says_query hbriefs.reports rfl)) fun events => ?_
  refine .bind (introduces_of_makes (.perform trivial fun _ _ => trivial)) fun _ => ?_
  exact .bind (act_introduces current _ (isAsked_plan _ messages changed) now) fun _ =>
    introduces_done _

/-- What a look saw of a reached session is known from then on. -/
theorem greeted_of_saw {world : World}
    (hinv : (disclosureExtension deployment condition).news.inv world) {number : Nat}
    (h : world.Saw number fun store => store.Reaches ∧ ∃ session ∈ store.sessions,
      session.sessionId = id ∧ session.reached = true) : world.store.Greeted id := by
  obtain ⟨look, hlook, -, hreaches, session, hsession, rfl, hreached⟩ := h
  exact (hreaches session hsession hreached).mono (hinv.2.looked look hlook)

/-- A session that gathers or guides is reached. -/
theorem reached_of_phaseOf {session : Session} {phase : Phase}
    (h : phaseOf session.state = some phase) : session.reached = true := by
  unfold Session.reached
  cases hstate : session.state <;> rw [hstate] at h <;> first | rfl | cases h

/-- What is loaded is stored. -/
theorem mem_of_load {store : Store} {session : Session} {messages : List Message}
    {openedBy : Initiator} (h : store.load id = some (session, messages, openedBy)) :
    session ∈ store.sessions := by
  obtain ⟨found, hfound, hrest⟩ := Option.bind_eq_some_iff.mp h
  obtain ⟨dispute, -, heq⟩ := Option.map_eq_some_iff.mp hrest
  cases heq
  exact List.mem_of_find?_eq_some hfound

/-- A part of a turn of a session that was reached when it was loaded. -/
theorem triple_of_loaded {session : Session} {messages : List Message} {openedBy : Initiator}
    (hreached : session.reached = true) {α : Type} {program : Daemon α}
    (h : Introduces deployment condition thread session.sessionId program) :
    (disclosureExtension deployment condition).news.Triple thread
      (loadedFrom Store.Reaches thread (fun _ => True) session messages openedBy) program
      fun _ _ => True := by
  refine h.consequence (fun world hinv hknown => greeted_of_saw hinv
    (hknown.2.imp fun store hstore => ?_)) fun _ _ _ _ => trivial
  exact ⟨hstore.1, session, mem_of_load hstore.2, rfl, hreached⟩

/-- A turn. -/
theorem turn_steps (deployment : Deployment)
    (condition : Condition Call Task Oracle Happening World) (thread : Thread Task)
    (id : SessionId) :
    TurnSteps (disclosureExtension deployment condition) thread wordless (fun _ => True)
      Store.Reaches id where
  lasting := .true
  enough hcall hinv hfact := suffices_wordless (fun _ => True) hcall hinv hfact
  briefs := briefs_wordless deployment
  strike _ _ _ _ _ := trivial
  load _ hinv _ := hinv.2.reaches
  handOff session messages openedBy phase reason reading now _ hphase _ :=
    triple_of_loaded (reached_of_phaseOf hphase) (handOff_introduces session reason reading now)
  guides session messages openedBy _ hstate :=
    triple_of_loaded (by rw [Session.reached, hstate]) (resendGuides_introduces session)
  decide session messages openedBy phase state answers now _ hphase :=
    triple_of_loaded (reached_of_phaseOf hphase)
      (decideAndAct_introduces session messages phase state answers now)
  join _ _ _ _ := trivial

/-- The timers of a session remind its parties, or hand it off. -/
theorem tickSession_introduces (session : Session) (now : Int) :
    Introduces deployment condition thread session.sessionId
      (tickSession deployment session now) := by
  have hbriefs := briefs_wordless deployment
  refine .bind (introduces_of_makes (says_query hbriefs.reports rfl)) fun read => ?_
  obtain ⟨messages, history⟩ := read
  simp only []
  split
  · exact introduces_done ()
  · exact .forEach (lasting_greeted _) fun party _ =>
      sendTemplate_introduces session party (by decide)
  · refine .bind (introduces_of_makes (says_lastReading hbriefs.reports session messages))
      fun last => ?_
    exact .bind (handOff_introduces session _ last now) fun _ => introduces_done ()

/-- A hand-off notice that is missing. -/
theorem retryNotice_introduces (session : Session) (messages : List Message) (party : Party) :
    Introduces deployment condition thread session.sessionId
      (retryNotice deployment session messages party) := by
  unfold retryNotice
  split
  · exact introduces_done ()
  · exact attempt_introduces session party (by decide) fun _ => introduces_done ()

/-- What the parties miss, by the state of the session. -/
theorem retryParties_introduces (session : Session) (messages : List Message)
    (held : Option Hold) :
    Introduces deployment condition thread session.sessionId
      (retryParties deployment session messages held) := by
  unfold retryParties
  split
  · split
    · exact introduces_done ()
    · exact .forEach (lasting_greeted _) fun party _ => retryNotice_introduces session messages party
  · exact .bind (resendGuides_introduces session) fun _ => introduces_done ()
  · split
    · exact sendHoldNotices_introduces session _
    · exact introduces_done ()
  · exact introduces_done ()

/-- Nothing is sent again to the parties of a session that was not reached. -/
theorem says_retryParties_unreached {session : Session} (h : session.reached = false)
    (messages : List Message) (held : Option Hold) :
    Says deployment thread wordless (retryParties deployment session messages held) := by
  unfold retryParties
  unfold Session.reached at h
  split
  · next hstate =>
    rw [hstate] at h
    have hfailed : session.handoffReason = some .openingFailed := by simpa using h
    rw [if_pos hfailed]
    exact trivial
  · next hstate =>
    rw [hstate] at h
    cases h
  · next hstate =>
    rw [hstate] at h
    cases h
  · exact trivial

/-- A part of a pass over a session that was reached when it was listed. -/
theorem triple_of_listed {session : Session} (hreached : session.reached = true) {α : Type}
    {program : Daemon α}
    (h : Introduces deployment condition thread session.sessionId program) :
    (disclosureExtension deployment condition).news.Triple thread
      (listedFrom Store.Reaches thread (fun _ => True) session) program fun _ _ => True := by
  refine h.consequence (fun world hinv hknown => greeted_of_saw hinv
    (hknown.2.imp fun store hstore => ?_)) fun _ _ _ _ => trivial
  have hmem := hstore.2
  rw [Store.listLive, List.mem_insertionSort, List.mem_filter] at hmem
  exact ⟨hstore.1, session, hmem.1, rfl, hreached⟩

/-- A listed session is written to again only if it was reached. -/
theorem retryUndelivered_introduces (session : Session) (now : Int) :
    (disclosureExtension deployment condition).news.Triple thread
      (listedFrom Store.Reaches thread (fun _ => True) session)
      (retryUndelivered deployment session now) fun _ _ => True := by
  have hbriefs := briefs_wordless deployment
  by_cases hreached : session.reached = true
  · refine triple_of_listed hreached ?_
    refine .bind (introduces_of_makes (says_query hbriefs.reports rfl)) fun read => ?_
    obtain ⟨messages, history⟩ := read
    simp only []
    split
    · exact introduces_done ()
    · refine .bind (.forEach (lasting_greeted _) fun brief _ => introduces_of_makes
        (says_retryBrief hbriefs session messages now brief)) fun _ => ?_
      exact retryParties_introduces session messages _
  · have hmakes : Says deployment thread wordless (retryUndelivered deployment session now) := by
      refine .bind (says_query hbriefs.reports rfl) fun read _ => ?_
      obtain ⟨messages, history⟩ := read
      simp only []
      split
      · exact trivial
      · refine .bind (.forEach fun brief _ => says_retryBrief hbriefs session messages now brief)
          fun _ _ => ?_
        exact says_retryParties_unreached (by simpa using hreached) messages _
    have hkeeps : (disclosureExtension deployment condition).news.Keeps thread (fun _ => True)
        (retryUndelivered deployment session now) :=
      keeps_of_says .true
        (fun hcall hinv hfact => suffices_wordless (fun _ => True) hcall hinv hfact) hmakes
    exact hkeeps.consequence (fun _ _ _ => trivial) fun _ _ _ _ => trivial

end

/-! ## Closings -/

/-- The program writes to the parties as it must, whatever it knows. -/
abbrev Heedful (deployment : Deployment)
    (condition : Condition Call Task Oracle Happening World) (thread : Thread Task) {α : Type}
    (program : Daemon α) : Prop :=
  (disclosureExtension deployment condition).news.Keeps thread (fun _ => True) program

/-- Nothing at all is known for good. -/
theorem lasting_heedful :
    (disclosureExtension deployment condition).news.Lasting thread anyCall fun _ => True := .true

/-- A program that returns writes to nobody. -/
theorem heedful_done {α : Type} (value : α) :
    Heedful deployment condition thread (.done value : Daemon α) :=
  .done lasting_heedful value

/-- A program that stores no message writes to nobody. -/
theorem heedful_of_makes {α : Type} {program : Daemon α}
    (h : Says deployment thread wordless program) : Heedful deployment condition thread program :=
  keeps_of_says .true (fun hcall hinv hfact => suffices_wordless (fun _ => True) hcall hinv hfact) h

/-- The thanks have no intro, whoever gets them. -/
theorem thank_heedful (session : Session) (complete : Bool) (party : Party) :
    Heedful deployment condition thread (thank deployment session complete party) := by
  have hbriefs := briefs_wordless deployment
  refine .bind (heedful_of_makes (says_received hbriefs.reports session party _)) fun got => ?_
  split
  · exact heedful_done complete
  · refine .bind (.attempt ?_) fun sent => ?_
    · cases hrender : deployment.render (languageOf deployment session party) .resolvedThanks false
          session.amount with
      | error failure =>
        simp only [renderFor, hrender]
        exact .raise lasting_heedful failure
      | ok text =>
        simp only [renderFor, hrender]
        refine (sendWhen_introduces .closed session
          ⟨party, text, .resolvedThanks, languageOf deployment session party⟩ .true ?_).consequence
          (fun _ _ hknown => hknown) fun _ _ _ _ => trivial
        exact fun world createdAt _ => ⟨.resolvedThanks, _, false, session.amount, rfl, rfl,
          by decide, hrender, fun hintro => absurd hintro (by decide), fun _ => .inl rfl⟩
    · cases sent with
      | ok _ => exact heedful_done complete
      | error failure => exact heedful_done false

/-- A closing thanks the parties, which is all that it writes to them. -/
theorem closeResolved_heedful (dispute : DisputeId) (status : DisputeStatus) (byParties : Bool)
    (now : Int) :
    Heedful deployment condition thread
      (closeResolved deployment dispute status byParties now) := by
  have hbriefs := briefs_wordless deployment
  refine .bind (heedful_of_makes (says_query hbriefs.reports rfl)) fun read => ?_
  obtain ⟨latest, history⟩ := read
  cases latest with
  | none => exact heedful_done none
  | some session =>
    simp only []
    split
    · exact heedful_done none
    refine .bind (heedful_of_makes (.perform trivial fun _ _ => trivial)) fun _ => ?_
    refine .bind ?_ fun thanked => ?_
    · unfold thankParties
      split
      · exact .foldEach lasting_heedful (fun complete party _ => thank_heedful session complete party) true
      · exact heedful_done true
    refine .bind ?_ fun reported => ?_
    · unfold sendReport
      split
      · exact heedful_done true
      · exact heedful_of_makes (.bind (says_notifySolvers (tell_wordless dispute _) now)
          fun _ _ => trivial)
    split
    · exact .bind (heedful_of_makes (.perform trivial fun _ _ => trivial)) fun _ => heedful_done _
    · exact heedful_done _

/-- The lock around a closing writes nothing. -/
theorem finish_heedful (dispute : DisputeId) (status : DisputeStatus) (byParties : Bool)
    (now : Int) :
    Heedful deployment condition thread (finish deployment dispute status byParties now) := by
  refine .bind (heedful_of_makes (.perform trivial fun _ _ => trivial)) fun _ => ?_
  refine .bind (.attempt (closeResolved_heedful dispute status byParties now)) fun result => ?_
  refine .bind (heedful_of_makes (.perform trivial fun _ _ => trivial)) fun _ => ?_
  exact .ofExcept lasting_heedful result

/-- The closings still pending. -/
theorem finishPending_heedful (since now : Int) :
    Heedful deployment condition thread (finishPending deployment since now) := by
  refine .bind (heedful_of_makes
    (says_attempt (says_query (briefs_wordless deployment).reports rfl))) fun pending => ?_
  cases pending with
  | error failure => exact heedful_done ()
  | ok pending =>
    exact .forEach lasting_heedful fun resolution _ =>
      .bind (.attempt (finish_heedful _ _ _ now)) fun _ => heedful_done ()

/-- A pass of the timers. -/
theorem pass_steps (deployment : Deployment)
    (condition : Condition Call Task Oracle Happening World) (thread : Thread Task) :
    PassSteps (disclosureExtension deployment condition) thread wordless (fun _ => True)
      Store.Reaches where
  lasting := .true
  enough hcall hinv hfact := suffices_wordless (fun _ => True) hcall hinv hfact
  briefs := briefs_wordless deployment
  openChat _ := trivial
  giveUp := giveUp_wordless
  list _ hinv _ := hinv.2.reaches
  time session now hstate := by
    refine triple_of_listed ?_ (tickSession_introduces session now)
    rw [Session.reached]
    rcases hstate with hstate | hstate <;> rw [hstate]
  unreachable session now hstate := by
    refine triple_of_listed ?_ (handOff_introduces session .openingFailed none now)
    rw [Session.reached]
    rcases hstate with hstate | hstate <;> rw [hstate]
  retry := retryUndelivered_introduces
  finish := finishPending_heedful
  join _ _ _ := trivial

/-! ## Openings -/

/-- The thread looked at the store. -/
def World.Looks (number : Nat) (world : World) : Prop := ∃ seen, world.lastLook number = some seen

/-- The thread looked last before there was a message of the session. -/
def World.Precedes (number : Nat) (id : SessionId) (world : World) : Prop :=
  world.LookedAt number fun seen => ∀ message ∈ seen.messages, message.sessionId ≠ id

/-- The last look is one of the looks. -/
theorem mem_of_lastLook {world : World} {number : Nat} {seen : Store}
    (h : world.lastLook number = some seen) : ∃ look ∈ world.looks, look.store = seen := by
  obtain ⟨look, hlook, rfl⟩ := Option.map_eq_some_iff.mp h
  exact ⟨look, (List.mem_filter.mp (List.mem_of_getLast? hlook)).1, rfl⟩

/-- A thread that looked has looked. -/
theorem lasting_looks :
    (disclosureExtension deployment condition).news.Lasting thread anyCall
      (World.Looks thread.number) := by
  constructor
  · rintro world later ⟨seen, hseen⟩ hrely
    exact ⟨seen, hrely.2.trans hseen⟩
  · rintro β call oracle world - - - - ⟨seen, hseen⟩
    rcases performCall_looks_cases deployment thread call oracle world with hsame | hadded
    · exact ⟨seen, (lastLook_of_looks hsame _).trans hseen⟩
    · refine ⟨world.store, ?_⟩
      change (performCall deployment thread call oracle world).2.lastLook thread.number = _
      rw [World.lastLook, hadded]
      simp

/-- What the insertion of a session returns. -/
theorem sessionId_of_insertSession {world : World} {dispute : DisputeId}
    {info : SolverDisputeInfo} {order : OrderEvent} {now : Int} {oracle : Oracle}
    {session : Session}
    (h : (performCall deployment thread (.insertSession dispute info order now) oracle world).1 =
      .ok session) : session.sessionId = world.store.sessions.length := by
  simp only [performCall, World.orFail] at h
  split at h
  · cases h
  · unfold World.openSession at h
    simp only [] at h
    repeat' split at h
    all_goals cases h
    rfl

/-- The insertion of a session takes no look. -/
theorem lastLook_insertSession (dispute : DisputeId) (info : SolverDisputeInfo)
    (order : OrderEvent) (now : Int) (oracle : Oracle) (world : World) (number : Nat) :
    (performCall deployment thread (.insertSession dispute info order now) oracle
      world).2.lastLook number = world.lastLook number :=
  lastLook_of_looks (performCall_unlooked deployment thread rfl oracle world) number

/-- The thread that creates a session did not look since. -/
theorem createSession_precedes (dispute : DisputeId) (info : SolverDisputeInfo) (now : Int) :
    (disclosureExtension deployment condition).news.Triple thread (World.Looks thread.number)
      (createSession dispute info now) fun result world => ∀ session, result = .ok session →
        World.Precedes thread.number session.sessionId world := by
  have hlooks : (disclosureExtension deployment condition).news.Lasting thread anyCall
      (World.Looks thread.number) := lasting_looks
  have hprecedes : ∀ id, (disclosureExtension deployment condition).news.Lasting thread stills
      (World.Precedes thread.number id) := fun id => lasting_lookedAt _
  unfold createSession
  split
  · exact fun _ _ _ _ _ _ => fun _ heq => by cases heq
  refine Spec.Triple.bind _ (Spec.Keeps.perform hlooks trivial fun _ _ _ => trivial) (fun order => ?_)
    fun _ _ _ _ _ heq => by cases heq
  have hinsert : (disclosureExtension deployment condition).news.Triple thread
      (World.Looks thread.number) (perform (.insertSession dispute info order now))
      fun result world => ∀ session, result = .ok session →
        World.Precedes thread.number session.sessionId world := by
    refine .perform hlooks.rely (fun _ _ _ => trivial) ?_
    rintro world oracle later hinv ⟨seen, hseen⟩ hcond hrely _ session hresult
    refine (hprecedes _).rely ⟨seen, ?_, ?_, ?_⟩ hrely
    · exact (lastLook_insertSession _ _ _ _ _ _ _).trans hseen
    · obtain ⟨look, hlook, rfl⟩ := mem_of_lastLook hseen
      exact (hinv.2.looked look hlook).trans (performCall_grows _ _ _ _ _).messages
    · -- The messages seen are of sessions that there were.
      intro message hmessage hid
      obtain ⟨look, hlook, rfl⟩ := mem_of_lastLook hseen
      have hlt := hinv.2.known message ((hinv.2.looked look hlook).subset hmessage)
      rw [hid, sessionId_of_insertSession hresult] at hlt
      exact Nat.lt_irrefl _ hlt
  refine Spec.Triple.bind _ hinsert (fun session => ?_) fun _ _ _ _ _ heq => by cases heq
  have hchat : (disclosureExtension deployment condition).news.Keeps thread
      (World.Precedes thread.number session.sessionId) (perform (.openChat session.sessionId)) :=
    .perform (hprecedes _) trivial fun _ _ _ => trivial
  refine Spec.Triple.bind _ (hchat.consequence (fun _ _ hknown => hknown session rfl)
    fun _ _ _ hknown => hknown) (fun _ => ?_) fun _ _ _ _ _ heq => by cases heq
  refine .done (fun hknown hrely found heq => ?_) fun world _ hknown found heq => ?_
  · exact (hprecedes _).rely (hknown found heq) hrely
  · cases heq
    exact hknown

/-- Greeting a party whose session has no message: it is greeted with the intro. -/
theorem greetParty_introduces {fact : World → Prop} (session : Session)
    {opener : Party × Template} (hother : opener.2 ≠ .intro)
    (hfact : (disclosureExtension deployment condition).news.Lasting thread stills fact)
    (hprecedes : ∀ world, fact world → World.Precedes thread.number session.sessionId world) :
    (disclosureExtension deployment condition).news.Triple thread fact
      (greetParty deployment session opener) fun result world => fact world ∧
        (result = .ok () → world.store.Wrote session.sessionId opener.1) := by
  unfold greetParty
  simp only [bind_eq]
  cases hrender : deployment.render deployment.settings.defaultLanguage opener.2 true
      session.amount with
  | error failure =>
    exact fun _ _ hknown _ hrely _ => ⟨hfact.rely hknown hrely, fun heq => by cases heq⟩
  | ok text =>
    refine sendWhen_introduces .live session
      ⟨opener.1, text, opener.2, deployment.settings.defaultLanguage⟩ hfact ?_
    intro world createdAt hknown
    obtain ⟨seen, hseen, -, hnone⟩ := hprecedes world hknown
    refine ⟨opener.2, _, true, session.amount, rfl, rfl, hother, hrender, fun _ => ⟨seen, hseen, ?_⟩,
      fun hplain => absurd hplain (by decide)⟩
    rw [List.eq_nil_iff_forall_not_mem]
    intro message hmessage
    obtain ⟨hmem, hid, -⟩ := Store.mem_writtenIn.mp hmessage
    exact hnone message hmem hid

/-- Greeting both parties. -/
theorem greet_introduces (session : Session) :
    (disclosureExtension deployment condition).news.Triple thread
      (World.Precedes thread.number session.sessionId) (greet deployment session)
      fun result world => result = .ok () → world.store.Greeted session.sessionId := by
  have hprecedes : (disclosureExtension deployment condition).news.Lasting thread stills
      (World.Precedes thread.number session.sessionId) := lasting_lookedAt _
  have hwrote : ∀ party, (disclosureExtension deployment condition).news.Lasting thread stills
      fun world => world.store.Wrote session.sessionId party := fun party =>
    ⟨fun h hrely => h.mono hrely.1.follows.log.messages,
      fun _ _ _ _ h => h.mono (performCall_grows _ _ _ _ _).messages⟩
  have hbuyer := @greetParty_introduces deployment condition thread
    (World.Precedes thread.number session.sessionId) session (.buyer, .askBuyerSent) (by decide)
    hprecedes fun _ hknown => hknown
  have hseller := @greetParty_introduces deployment condition thread
    (fun world => World.Precedes thread.number session.sessionId world ∧
      world.store.Wrote session.sessionId .buyer) session (.seller, .askSellerReceived) (by decide)
    (hprecedes.and (hwrote .buyer)) fun _ hknown => hknown.1
  refine Spec.Triple.bind _ hbuyer (fun _ => ?_) fun _ _ _ _ heq => by cases heq
  refine Spec.Triple.bind _ (hseller.consequence (fun _ _ hknown => ⟨hknown.1, hknown.2 rfl⟩)
    fun _ _ _ hknown => hknown) (fun _ => ?_) fun _ _ _ _ heq => by cases heq
  refine .done (fun hknown hrely heq => (hknown heq).mono hrely.1.follows.log.messages) ?_
  intro world _ hknown _ party
  cases party with
  | buyer => exact hknown.1.2
  | seller => exact hknown.2 rfl

/-- Knowing nothing, a program that writes nothing. -/
theorem triple_of_wordless {before : World → Prop} {α : Type} {program : Daemon α}
    (h : Says deployment thread wordless program) :
    (disclosureExtension deployment condition).news.Triple thread before program fun _ _ => True :=
  (heedful_of_makes h).consequence (fun _ _ _ => trivial) fun _ _ _ _ => trivial

/-- An abandoned opening stores no message. -/
theorem says_abandon_wordless (dispute : DisputeId) (session : Option Session) (reason : String)
    (now : Int) :
    Says deployment thread wordless (abandon deployment dispute session reason now) := by
  refine .bind (.perform trivial fun _ _ => trivial) fun _ _ => ?_
  cases session with
  | none => exact .bind (says_sendOpeningNotice (giveUp_wordless dispute) now) fun _ _ => trivial
  | some session =>
    exact .bind (.perform trivial fun _ _ => trivial) fun _ _ =>
      .bind (says_sendOpeningNotice (giveUp_wordless dispute) now) fun _ _ => trivial

/-- The end of an opening that reached both parties. -/
theorem activate_introduces (dispute : DisputeId) (session : Session) (now : Int) :
    (disclosureExtension deployment condition).news.Triple thread
      (fun world => world.store.Greeted session.sessionId)
      (activate deployment dispute session now) fun _ _ => True := by
  have hgreeted : (disclosureExtension deployment condition).news.Lasting thread anyCall
      fun world => world.store.Greeted session.sessionId := lasting_greeted _
  refine Spec.Triple.bind (fun _ _ => True) (.perform hgreeted.rely (fun _ _ hknown => hknown)
    fun _ _ _ _ _ _ _ _ => trivial) (fun _ => triple_of_wordless ?_) fun _ _ _ _ => trivial
  refine .bind (says_notifySolvers (tell_wordless dispute _) now) fun _ _ => ?_
  exact .bind (.perform trivial fun _ _ => trivial) fun _ _ => trivial

/-- Opening a dispute, once the thread has looked: the openers are the first messages. -/
theorem openDispute_introduces (dispute : DisputeId) (now : Int) :
    (disclosureExtension deployment condition).news.Triple thread (World.Looks thread.number)
      (openDispute deployment dispute now) fun _ _ => True := by
  have hlooks : (disclosureExtension deployment condition).news.Lasting thread anyCall
      (World.Looks thread.number) := lasting_looks
  have htake : (disclosureExtension deployment condition).news.Keeps thread
      (World.Looks thread.number) (attempt (perform (.takeDispute dispute))) :=
    .attempt (.perform hlooks trivial fun _ _ _ => trivial)
  refine Spec.Triple.bind _ htake (fun taken => ?_) fun _ _ _ _ => trivial
  cases taken with
  | error reason =>
    exact triple_of_wordless (.bind (.perform trivial fun _ _ => trivial) fun _ _ => trivial)
  | ok info =>
    refine Spec.Triple.attempt_bind (createSession_precedes dispute info now) fun created => ?_
    cases created with
    | error reason => exact triple_of_wordless (says_abandon_wordless dispute none reason now)
    | ok session =>
      refine Spec.Triple.attempt_bind ((greet_introduces session).consequence
        (fun _ _ hknown => hknown session rfl) fun _ _ _ hknown => hknown) fun greeted => ?_
      cases greeted with
      | error failure =>
        exact triple_of_wordless (says_abandon_wordless dispute (some session) _ now)
      | ok _ =>
        exact (activate_introduces dispute session now).consequence
          (fun _ _ hknown => hknown rfl) fun _ _ _ hknown => hknown

/-- A claim reads the store first. -/
theorem claim_looks (dispute : DisputeId) :
    (disclosureExtension deployment condition).news.Triple thread (fun _ => True) (claim dispute)
      fun result world => ∀ verdict, result = .ok verdict → World.Looks thread.number world := by
  have hlooks : (disclosureExtension deployment condition).news.Lasting thread anyCall
      (World.Looks thread.number) := lasting_looks
  have hread : (disclosureExtension deployment condition).news.Learns thread (fun _ => True)
      (perform (.read fun store => (store.dispute dispute).map fun row =>
        (row.lifecycle, store.existsForDispute dispute))) fun _ => World.Looks thread.number := by
    let query := fun store : Store => (store.dispute dispute).map fun row =>
      (row.lifecycle, store.existsForDispute dispute)
    have hquery : ∀ (oracle : Oracle) (world : World),
        performCall deployment thread (.read query) oracle world =
          world.orFail oracle (.ok (query world.store), world.look thread.number) :=
      fun _ _ => rfl
    refine learns_of_lasting _ hquery lasting_heedful trivial (fun _ _ _ => trivial)
      (fun _ => hlooks) fun world _ _ => ⟨world.store, world.lastLook_look thread.number⟩
  refine Spec.Triple.bind _ hread (fun known => ?_) fun _ _ _ _ _ heq => by cases heq
  cases known with
  | none => exact fun _ _ _ _ _ _ _ heq => by cases heq
  | some known =>
    have hclaim : (disclosureExtension deployment condition).news.Keeps thread
        (World.Looks thread.number) (perform (.claimTake dispute known.1 known.2)) :=
      .perform hlooks trivial fun _ _ _ => trivial
    exact hclaim.consequence (fun _ _ hknown => hknown.2 _ rfl) fun _ _ _ hknown _ _ => hknown

/-- Considering a dispute: the claim looks first. -/
theorem consider_introduces (dispute : DisputeId) (now : Int) :
    (disclosureExtension deployment condition).news.Triple thread (fun _ => True)
      (consider deployment dispute now) fun _ _ => True := by
  refine Spec.Triple.attempt_bind (claim_looks dispute) fun verdict => ?_
  cases verdict with
  | error failure => exact triple_of_wordless trivial
  | ok claimed =>
    cases claimed with
    | error reason => exact triple_of_wordless trivial
    | ok _ =>
      refine Spec.Triple.attempt_bind ((openDispute_introduces dispute now).consequence
        (fun _ _ hknown => hknown _ rfl) fun _ _ _ hknown => hknown) fun outcome => ?_
      refine triple_of_wordless (.bind (.perform trivial fun _ _ => trivial) fun _ _ => ?_)
      cases outcome <;> exact trivial

/-! ## Catalogs of few words -/

/-- A catalog of plain texts: each template is its own id, after the language. -/
def plainly (code intro : String) : Catalog :=
  { code := code
    name := code
    format := ⟨",", "."⟩
    words := ⟨[], []⟩
    templates := Std.TreeMap.ofList
      ((introId, intro) :: (templateIds.erase introId).map fun id => (id, code ++ " " ++ id)) }

/-- Serbero speaks two languages. -/
def bilingual : Catalogs :=
  { byCode := Std.TreeMap.ofList
      [("en", plainly "en" "Serbero writes."), ("es", plainly "es" "Serbero escribe.")] }

/-- No template of the catalog holds the placeholder, and none but the intro begins with it. -/
def Catalog.introApart (catalog : Catalog) (intro : String) : Bool :=
  catalog.template introId == some intro && !usesAmount intro &&
    catalog.templates.toList.all fun entry => entry.1 == introId ||
      (!usesAmount entry.2 && !(intro ++ "\n\n").toList.isPrefixOf entry.2.toList)

/-- Another template than the intro has another id. -/
theorem introId_ne {template : Template} (h : template ≠ .intro) : template.id ≠ introId := by
  cases template <;> first | exact absurd rfl h | decide

/-- A text without the placeholder is rendered as it is. -/
theorem Catalog.render_plain {catalog : Catalog} {id text : String}
    (htext : catalog.template id = some text) (huses : usesAmount text = false)
    (amount : Option Amount) : catalog.render id amount = .ok text := by
  apply Catalog.render_eq (show catalog.renderWithin 1 id amount = some (.ok text) from ?_)
  simp [Catalog.renderWithin, htext, huses]

/-- Catalogs of plain texts keep their intros apart. -/
theorem introsApart_of_introApart {catalogs : Catalogs}
    (h : ∀ entry ∈ catalogs.byCode.toList, ∃ intro, entry.2.introApart intro = true) :
    catalogs.IntrosApart := by
  intro lang template amount text hother hrender
  unfold Catalogs.render at hrender
  unfold Catalogs.introduces
  cases hcatalog : catalogs.byCode[lang]? with
  | none => rfl
  | some catalog =>
    obtain ⟨intro, hapart⟩ :=
      h (lang, catalog) (Std.TreeMap.mem_toList_iff_getElem?_eq_some.mpr hcatalog)
    simp only [Catalog.introApart, Bool.and_eq_true, beq_iff_eq, Bool.not_eq_true'] at hapart
    obtain ⟨⟨hintro, hplain⟩, hall⟩ := hapart
    simp only [hcatalog, Bool.false_eq_true, if_false] at hrender
    simp only [Catalog.render_plain hintro hplain]
    cases htext : catalog.template template.id with
    | none =>
      -- A template that the catalog does not have is not rendered.
      rw [Catalog.render_eq (show catalog.renderWithin 1 template.id _ = some (.error _) by
        rw [Catalog.renderWithin, htext])] at hrender
      cases hrender
    | some own =>
      have hmem : (template.id, own) ∈ catalog.templates.toList :=
        Std.TreeMap.mem_toList_iff_getElem?_eq_some.mpr htext
      have hentry := List.all_eq_true.mp hall _ hmem
      have hid : (template.id == introId) = false := by
        rw [beq_eq_false_iff_ne]
        exact introId_ne hother
      simp only [hid, Bool.false_or, Bool.and_eq_true, Bool.not_eq_true'] at hentry
      rw [Catalog.render_plain htext hentry.1, Except.ok.injEq] at hrender
      rw [← hrender]
      exact hentry.2

/-- The two languages of the example keep their intros apart. -/
theorem introsApart_bilingual : bilingual.IntrosApart := by
  apply introsApart_of_introApart
  have hcheck : bilingual.byCode.toList.all (fun entry =>
      entry.2.introApart "Serbero writes." || entry.2.introApart "Serbero escribe.") = true := by
    decide +kernel
  intro entry hentry
  rcases Bool.or_eq_true_iff.mp (List.all_eq_true.mp hcheck entry hentry) with hen | hes
  · exact ⟨_, hen⟩
  · exact ⟨_, hes⟩

/-! ## Runs -/

/-- **Every task** decides about the intro on what it saw. -/
theorem disclosure_launches (deployment : Deployment)
    (condition : Condition Call Task Oracle Happening World) :
    (disclosureExtension deployment condition).contract.Launches := by
  refine Extension.launches (launches deployment condition) ?_
  intro thread oracle world world' hinv hwelcomed _ hlaunch
  have hinv' : (disclosureExtension deployment condition).news.inv world' :=
    ⟨(launch_stepped hinv hlaunch).inv, hwelcomed.launch hinv hlaunch⟩
  suffices htask : (disclosureExtension deployment condition).news.Triple thread (fun _ => True)
      (program deployment thread.role) fun _ _ => True from htask world' hinv' trivial
  have hbriefs := briefs_wordless deployment
  have query : ∀ {α : Type} {call : Call α}, call.isQuery = true →
      Heedful deployment condition thread (perform call) :=
    fun hquery => heedful_of_makes (says_query hbriefs.reports hquery)
  obtain ⟨number, role⟩ := thread
  cases role with
  | consider dispute =>
    exact triple_mediates hbriefs trivial triple_of_wordless consider_introduces rfl
  | judgeChecks started =>
    exact triple_mediates hbriefs trivial triple_of_wordless consider_introduces rfl
  | turn id => exact (turn_steps deployment condition _ id).turnLogged
  | tick => exact (pass_steps deployment condition _).pass
  | handleEvent dispute =>
    exact triple_of_wordless (says_others hbriefs.reports (by simp) (by simp) notify_wordless)
  | remind renotifyAfter =>
    exact triple_of_wordless (says_others hbriefs.reports (by simp) (by simp) notify_wordless)
  | finish dispute status byParties =>
    exact Spec.Keeps.bind (query rfl) fun now =>
      Spec.Keeps.bind (finish_heedful dispute status byParties now) fun _ => heedful_done ()
  | finishPending =>
    exact Spec.Keeps.bind (query rfl) fun now => finishPending_heedful _ now
  | resume =>
    exact triple_of_wordless (says_others hbriefs.reports (by simp) (by simp) fun _ => trivial)

/-- What a run under the condition reaches by moves that heed the disclosure. -/
theorem disclosure_moves {clock : Int} {conf : Conf Call String Task World}
    (hrun : (machine deployment).RunsTo condition (Serbero.start clock) conf) :
    ReflTransGen (disclosureExtension deployment condition).contract.Moves
      (World.start clock) conf.world := by
  have hstart : (disclosureExtension deployment condition).contract.Kept (Serbero.start clock) :=
    Contract.kept_of_start ⟨inv_start clock, welcomed_start clock⟩
  exact (hstart.run (disclosure_launches deployment condition) hrun).2

/-- **The disclosure comes first** in every language, while the closing thanks is stored only for a
party that was written to in its language before; and while no two sends to a party overlap, no later
message in the language has the intro. -/
theorem disclosure_first {deployment : Deployment} {catalogs : Catalogs} {clock : Int}
    {conf : Conf Call String Task World} :
    ((machine (deployment.speaking catalogs)).RunsTo acquainted (Serbero.start clock) conf →
      conf.world.store.FirstsIntroduced catalogs) ∧
    ((machine (deployment.speaking catalogs)).RunsTo inTurns (Serbero.start clock) conf →
      conf.world.store.LatersPlain catalogs ∧
        (catalogs.IntrosApart → conf.world.store.IntrosOnce catalogs)) := by
  constructor
  · intro hrun
    exact Contract.Moves.run_induction (fun world => world.store.FirstsIntroduced catalogs)
      (fun h hmove => firstsIntroduced_of_moves h hmove) (disclosure_moves hrun)
      fun _ _ _ _ _ hnil => by cases hnil
  · intro hrun
    have hplain : conf.world.store.LatersPlain catalogs :=
      Contract.Moves.run_induction (fun world => world.store.LatersPlain catalogs)
        (fun h hmove => latersPlain_of_moves h hmove) (disclosure_moves hrun)
        fun _ _ _ _ _ hnil => by cases hnil
    exact ⟨hplain, hplain.introsOnce⟩

/-- Serbero mediates in two languages. -/
def bilingualDeployment : Deployment :=
  { smallDeployment with settings := { smallDeployment.settings with languages := ["en", "es"] } }

/-- A party of the first session writes, and its turn comes to the judge. -/
def writtenSteps (number thread calls : Nat) (party : Party) (now : Int) :
    List (Choice Task Oracle Happening) :=
  [.happen (.clock now), .happen (.receive ⟨0, party, "hola", 0, number, now, false⟩),
    .happen .touch, .launch (.turn 0) .quiet] ++ quietly thread calls

/-- The judge hears the buyer write Spanish. -/
def spanishAnswers : Answers :=
  .ofList [("buyer_language", Answer.choice (.ofList [("es", (1 : ℚ))])),
    ("buyer_message_kind", Answer.choice (.ofList [("other", (1 : ℚ))]))]

/-- The parties resolve the dispute, and the closing thanks them. -/
def thankedSteps (thread : Nat) : List (Choice Task Oracle Happening) :=
  let dispute : DisputeEvent := ⟨1, .buyer, .released, 2000, 2, false⟩
  [.happen (.clock 2000), .happen (.publish dispute), .launch (.handleEvent dispute) .quiet] ++
    quietly thread 3 ++ [.launch (.finish 1 .released true) .quiet] ++ quietly (thread + 1) 18

/-- The buyer answers the question in Spanish and gets it again in Spanish. -/
def askedAgainSteps : List (Choice Task Oracle Happening) :=
  openedSteps ++ writtenSteps 1 3 4 .buyer 1010 ++
    [.run 3 { Oracle.quiet with answers := spanishAnswers }] ++ quietly 3 12 ++ thankedSteps 4

/-- The same run meets the condition, and the theorem holds at its end. -/
theorem disclosure_first_asked_again :
    let speaking := machine (bilingualDeployment.speaking bilingual)
    let conf := speaking.after acquainted (Serbero.start 1000) askedAgainSteps
    let alone := speaking.after inTurns (Serbero.start 1000) askedAgainSteps
    conf.world.store.FirstsIntroduced bilingual ∧ alone.world.store.LatersPlain bilingual ∧
      alone.world.store.IntrosOnce bilingual := by
  intro speaking conf alone
  have hfirst : speaking.RunsTo acquainted (Serbero.start 1000) conf :=
    speaking.runsTo_after (by decide +kernel)
  have halone : speaking.RunsTo inTurns (Serbero.start 1000) alone :=
    speaking.runsTo_after (by decide +kernel)
  have hlaters := disclosure_first.2 halone
  exact ⟨disclosure_first.1 hfirst, hlaters.1, hlaters.2 introsApart_bilingual⟩

/-- The judge hears the seller say that the fiat arrived. -/
def saysReceived : Answers :=
  .ofList [("seller_receipt", Answer.choice (.ofList [("says_received", (1 : ℚ))]))]

/-- The parties are guided, then the buyer writes Spanish and is told nothing. -/
def toldNothingSteps : List (Choice Task Oracle Happening) :=
  openedSteps ++ writtenSteps 1 3 4 .seller 1010 ++
    [.run 3 { Oracle.quiet with answers := saysReceived }] ++
    quietly 3 31 ++ writtenSteps 2 4 7 .buyer 1020 ++
    [.run 4 { Oracle.quiet with answers := spanishAnswers }] ++ quietly 4 7 ++ thankedSteps 5

/-- The closing thanks is the first that the buyer gets in Spanish, and has no intro. -/
theorem not_disclosure_first :
    ¬∀ conf, (machine (bilingualDeployment.speaking bilingual)).RunsTo Condition.always
      (Serbero.start 1000) conf → conf.world.store.FirstsIntroduced bilingual := by
  intro h
  have hfirst := h ((machine (bilingualDeployment.speaking bilingual)).after Condition.always
    (Serbero.start 1000) toldNothingSteps)
    ((machine (bilingualDeployment.speaking bilingual)).runsTo_after (by decide +kernel))
  have hhead : ((((machine (bilingualDeployment.speaking bilingual)).after Condition.always
      (Serbero.start 1000) toldNothingSteps).world.store.writtenIn 0 .buyer "es").head?.map
        fun message => bilingual.introduces "es" message.content) = some false := by
    decide +kernel
  obtain ⟨message, hmessage, hplain⟩ := Option.map_eq_some_iff.mp hhead
  obtain ⟨rest, hwritten⟩ := List.head?_eq_some_iff.mp hmessage
  rw [hfirst 0 .buyer "es" message rest hwritten] at hplain
  cases hplain

end Serbero
