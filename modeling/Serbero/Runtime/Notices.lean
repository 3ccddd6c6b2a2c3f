import Serbero.Runtime.Deliveries
import Serbero.Runtime.Turns

/-! # Party notices

The hand-off notice, the guides and the hold notice are sent by the turn that decides them, and again
by the timers and by later turns where a party seems to miss them. A party gets each once, unless two
tasks send it at the same time. -/

namespace Serbero

open Pool Relation
open Pool.Program

variable {deployment : Deployment} {thread : Thread Task}

/-- The guides: what each party is explained. -/
def Template.isGuide : Template → Bool
  | guideArrivedSeller | guideArrivedBuyer | guideNotSentBuyer | guideNotSentSeller => true
  | _ => false

/-- The templates that a party gets once: a guide and the hand-off notice in a session, the hold
notice in a hold. -/
def Template.isNotice (template : Template) : Bool :=
  template.isGuide || template == .handoffNotice || template == .holdNotice

/-- What a relay accepted is stored, and the process does not stop before. -/
def noticesKept : Condition Call Task Oracle Happening World where
  call _ request oracle world :=
    match request with
    | .insertMessage new => !new.templateId.any Template.isNotice || world.stores oracle new
    | _ => true
  launch _ _ _ := true
  happen _ _ := true
  restart _ world := world.recording.all fun entry => !entry.2.template.isNotice

/-- And no task sends a notice that another one is sending, or has stored since it looked. -/
def noticesApart : Condition Call Task Oracle Happening World :=
  { noticesKept with
    call := fun thread request oracle world =>
      noticesKept.call thread request oracle world &&
        match request with
        | .gate rule message =>
          !message.template.isNotice || oracle.fails.isSome || !world.admits rule message ||
            (decide (world.underWay message = 0) &&
              (!world.store.hasGot message || world.looks.all fun look =>
                look.thread != thread.number || look.store.hasGot message))
        | _ => true }

/-- The thread saw that the party does not have the message. -/
def World.Misses (world : World) (number : Nat) (message : Passed) : Prop :=
  world.Saw number fun store => store.hasGot message = false

/-- The messages are counted, and each notice went out once at most. -/
structure World.Noticed (world : World) : Prop where
  counts : world.store.Counts
  once : ∀ message : Passed, message.template.isNotice = true → world.Once message

/-- What a task must know before it sends a notice: it looked, and the party did not have it. -/
def Looks (thread : Thread Task) {β : Type} (call : Call β) (world : World) : Prop :=
  match call with
  | .gate _ message => message.template.isNotice = true → world.Misses thread.number message
  | _ => True

/-- A notice that passes the gate is fresh. -/
theorem guards_of_apart {message : Passed} (hnotice : message.template.isNotice = true) {β : Type}
    {call : Call β} {oracle : Oracle} {world : World} (hlooks : Looks thread call world)
    (hcond : noticesApart.call thread call oracle world = true) :
    World.Once.Guards message call oracle world := by
  cases call with
  | gate rule other =>
    rintro rfl hfails hadmits
    simp only [noticesApart, noticesKept, hnotice, hfails, hadmits, Bool.not_true,
      Bool.true_and, Option.isSome_none,
      Bool.false_or, Bool.and_eq_true, decide_eq_true_eq, Bool.or_eq_true, Bool.not_eq_true',
      List.all_eq_true, bne_iff_ne] at hcond
    obtain ⟨hidle, hmissing⟩ := hcond
    refine ⟨hmissing.resolve_right fun hall => ?_, hidle⟩
    obtain ⟨look, hlook, hthread, hmisses⟩ := hlooks hnotice
    rcases hall look hlook with hother | hgot
    · exact hother hthread
    · rw [hmisses] at hgot
      cases hgot
  | insertMessage new =>
    rintro ⟨-, -, htemplate⟩
    simpa [noticesApart, noticesKept, htemplate, hnotice] using hcond
  | _ => trivial

/-- What holds of notices besides the contract. -/
def noticeExtension (deployment : Deployment) :
    Extension (contract deployment noticesApart) where
  inv := World.Noticed
  pre thread call world := Looks thread call world
  rely _ _ _ := True
  rely_refl _ _ := trivial
  rely_trans _ _ _ _ := trivial
  call_inv _ h hneeds hlooks hcond :=
    ⟨counts_performCall h.counts hneeds _, fun message hnotice =>
      (h.once message hnotice).performCall h.counts hneeds (guards_of_apart hnotice hlooks hcond)⟩
  call_rely _ _ _ _ _ _ := trivial
  launch_inv _ h _ hlaunch :=
    ⟨counts_launch h.counts hlaunch, fun message hnotice => (h.once message hnotice).launch hlaunch⟩
  launch_rely _ _ _ _ := trivial
  happen_inv _ h _ hhappen :=
    ⟨counts_happen h.counts hhappen, fun message hnotice => (h.once message hnotice).happen hhappen⟩
  happen_rely _ _ _ _ := trivial
  restart_inv _ h hcond :=
    ⟨h.counts, fun message hnotice => (h.once message hnotice).restart _ fun number hmem => by
      have hnone := List.all_eq_true.mp hcond _ hmem
      rw [show (number, message).2.template.isNotice = true from hnotice] at hnone
      cases hnone⟩

/-! ## Everything else -/

/-- The call lets no notice pass the gate. -/
def unnoticed {β : Type} (call : Call β) : Prop :=
  match call with
  | .gate _ message => message.template.isNotice = false
  | _ => True

/-- A call that lets no notice pass has nothing to look for. -/
theorem suffices_unnoticed (fact : World → Prop) :
    Suffices (noticeExtension deployment) thread unnoticed fact := by
  intro β call world hcall _ _
  cases call with
  | gate rule message =>
    intro hnotice
    rw [show message.template.isNotice = false from hcall] at hnotice
    cases hnotice
  | _ => trivial

/-- A template that is no notice may be written. -/
theorem send_unnoticed {id : SessionId} {party : Party} {template : Template}
    (hother : template.isNotice = false) :
    MaySend deployment unnoticed id party template := by
  intro β call hsends
  cases call with
  | gate rule message =>
    rw [show message = _ from hsends]
    exact hother
  | _ => trivial

/-- What the solvers are told is no notice to a party. -/
theorem tell_unnoticed (dispute : DisputeId) (notification : String) :
    MayTell unnoticed dispute notification := by
  intro β call htells
  cases call <;> trivial

/-- Briefs and the queries behind them write to no party. -/
theorem briefs_unnoticed (deployment : Deployment) : AllowsBriefs deployment unnoticed where
  query {_ call} hquery := by cases call <;> trivial
  briefs {_ call} hbriefs := by
    rcases hbriefs with ⟨dispute, notification, -, htells⟩ | hbriefs
    · exact tell_unnoticed dispute notification htells
    · cases call <;> trivial

/-- Closing a dispute thanks the parties, and the thanks are no notice. -/
theorem close_unnoticed (deployment : Deployment) : MayClose deployment unnoticed where
  lock := trivial
  unlock := trivial
  closeChat _ := trivial
  thank _ _ := send_unnoticed rfl
  report _ := tell_unnoticed _ _
  finished _ _ _ _ := trivial

/-- A dispute given up is told to the solvers alone. -/
theorem giveUp_unnoticed (dispute : DisputeId) : MayGiveUp unnoticed dispute :=
  ⟨tell_unnoticed _ _, fun _ => trivial⟩

/-- Opening a dispute writes the openers, which are no notices. -/
theorem consider_unnoticed (deployment : Deployment) : MayConsider deployment unnoticed where
  insert _ _ _ _ := trivial
  openChat _ := trivial
  closeChat _ := trivial
  greet id opener hopener := by
    refine send_unnoticed ?_
    simp only [openers, List.mem_cons, List.not_mem_nil, or_false] at hopener
    rcases hopener with rfl | rfl <;> rfl
  abandon _ _ _ _ := trivial
  activate _ _ _ := trivial
  started _ := tell_unnoticed _ _
  opened _ _ _ := trivial
  giveUp := giveUp_unnoticed
  claim _ _ _ := trivial
  take _ := trivial
  notOpened _ _ _ := trivial
  release _ := trivial

/-- The notifications go to the solvers alone. -/
theorem notify_unnoticed : MayNotify unnoticed :=
  ⟨fun _ _ _ => tell_unnoticed _ _, fun _ _ => trivial, fun _ _ => trivial, fun _ => trivial⟩

/-- A task that is no turn and no pass of the timers. -/
theorem runs_unnoticed {task : Task} (hturn : ∀ id, task ≠ .turn id) (htick : task ≠ .tick) :
    MayRun deployment unnoticed task := by
  cases task with
  | consider dispute => exact consider_unnoticed deployment
  | judgeChecks started => exact ⟨consider_unnoticed deployment, trivial⟩
  | turn id => exact absurd rfl (hturn id)
  | tick => exact absurd rfl htick
  | handleEvent dispute => exact notify_unnoticed
  | remind renotifyAfter => exact notify_unnoticed
  | finish dispute status byParties => exact close_unnoticed deployment
  | finishPending => exact close_unnoticed deployment
  | resume => exact fun _ => trivial

/-! ## Sending notices -/

/-- The program sends a notice only where the thread saw that the party does not have it. -/
abbrev Spares (deployment : Deployment) (thread : Thread Task) {α : Type} (program : Daemon α) :
    Prop :=
  (noticeExtension deployment).news.Keeps thread (fun _ => True) program

/-- Nothing at all is known for good. -/
theorem lasting_true : (noticeExtension deployment).news.Lasting thread anyCall fun _ => True :=
  .true

/-- A program that returns sends nothing. -/
theorem spares_done {α : Type} (value : α) : Spares deployment thread (.done value) :=
  .done lasting_true value

/-- A program whose calls let no notice pass looks nowhere. -/
theorem spares_of_makes {α : Type} {program : Daemon α}
    (h : Says deployment thread unnoticed program) : Spares deployment thread program :=
  keeps_of_says .true (fun hcall hinv hfact => suffices_unnoticed (fun _ => True) hcall hinv hfact) h

/-- Sending a party a notice that it was seen to miss. -/
theorem sendTemplate_spec (session : Session) (party : Party) (template : Template) :
    (noticeExtension deployment).news.Triple thread
      (fun world => world.Misses thread.number ⟨session.sessionId, party, template⟩)
      (sendTemplate deployment session party template) fun _ _ => True := by
  let allowed : {β : Type} → Call β → Prop := fun {_} call =>
    match call with
    | .gate _ message => message = ⟨session.sessionId, party, template⟩
    | _ => True
  have hbriefs : AllowsBriefs deployment allowed := by
    refine ⟨fun {_ call} hquery => ?_, fun {_ call} hbriefs => ?_⟩
    · cases call <;> trivial
    · rcases hbriefs with ⟨dispute, notification, -, htells⟩ | hbriefs
      · cases call <;> trivial
      · cases call <;> trivial
  have hsend : MaySend deployment allowed session.sessionId party template := by
    intro β call hsends
    cases call <;> first | exact hsends | trivial
  have hsaw : (noticeExtension deployment).news.Lasting thread allowed
      fun world => world.Misses thread.number ⟨session.sessionId, party, template⟩ :=
    (lasting_saw _).of_imp fun _ => trivial
  refine (Spec.triple_of_makes hsaw ?_ (says_sendTemplate hbriefs.reports hsend)).consequence
    (fun _ _ hknown => hknown) fun _ _ _ _ => trivial
  intro β call world hcall _ hmisses
  cases call with
  | gate rule message =>
    intro _
    rw [show message = _ from hcall]
    exact hmisses
  | _ => trivial

/-- Trying to send it. -/
theorem attempt_spec (session : Session) (party : Party) (template : Template) {α : Type}
    {next : Except String Unit → Daemon α} (hnext : ∀ sent, Spares deployment thread (next sent)) :
    (noticeExtension deployment).news.Triple thread
      (fun world => world.Misses thread.number ⟨session.sessionId, party, template⟩)
      ((attempt (sendTemplate deployment session party template)).bind next) fun _ _ => True :=
  Spec.Triple.attempt_bind (sendTemplate_spec session party template) hnext

/-- Whether the party received the template is seen in the store. -/
theorem received_spec (session : Session) (party : Party) {template : Template}
    (hhold : template ≠ .holdNotice) :
    (noticeExtension deployment).news.Learns thread (fun _ => True)
      (received session party template) fun got world => world.Saw thread.number fun store =>
        True ∧ store.hasGot ⟨session.sessionId, party, template⟩ = got := by
  have hquery : (fun store : Store => (store.listMessages session.sessionId).any fun message =>
      message.isSent party template) =
        fun store => store.hasGot ⟨session.sessionId, party, template⟩ := by
    funext store
    rw [Store.hasGot]
    have hany : (template != .holdNotice) = true := by rw [bne_iff_ne]; exact hhold
    simp only [hany, Bool.true_or, Bool.and_true]
  rw [received, hquery]
  exact learns_of_saw (fun _ => True) (fun _ _ => rfl) lasting_true trivial
    (fun _ _ _ => trivial) fun _ _ _ => trivial

/-- A template that is sent unless it was received. -/
theorem unless_received (session : Session) (party : Party) {template : Template}
    (hhold : template ≠ .holdNotice) {α : Type} {skip : Daemon α}
    {next : Except String Unit → Daemon α} (hskip : Spares deployment thread skip)
    (hnext : ∀ sent, Spares deployment thread (next sent)) :
    Spares deployment thread ((received session party template).bind fun got =>
      if got then skip
      else (attempt (sendTemplate deployment session party template)).bind next) := by
  refine Spec.Triple.bind _ (received_spec session party hhold) (fun got => ?_)
    fun _ _ _ _ => trivial
  split
  · exact hskip.consequence (fun _ _ _ => trivial) fun _ _ _ _ => trivial
  · next hgot =>
    refine (attempt_spec session party template hnext).consequence ?_ fun _ _ _ _ => trivial
    rintro world - ⟨-, hsaw⟩
    refine (hsaw got rfl).imp fun store hstore => hstore.2.trans ?_
    simpa using hgot

/-- The hand-off notice goes to a party seen without one. -/
theorem tellHandoff_spec (session : Session) (party : Party) :
    Spares deployment thread (tellHandoff deployment session party) :=
  unless_received session party (by decide) (spares_done ()) fun _ => spares_done ()

/-- A hand-off writes its notices after the brief, each to a party seen without one. -/
theorem handOff_spec (session : Session) (reason : HandoffReason) (reading : Option TurnReading)
    (now : Int) : Spares deployment thread (handOff deployment session reason reading now) := by
  have hbriefs := briefs_unnoticed deployment
  have htell : ∀ claimed, Spares deployment thread
      ((forEach (tellHandoff deployment session) Party.both).bind fun _ =>
        (.done claimed : Daemon Bool)) := fun claimed =>
    .bind (.forEach lasting_true fun party _ => tellHandoff_spec session party)
      fun _ => spares_done claimed
  refine .bind (spares_of_makes (.perform trivial fun _ _ => trivial)) fun claimed => ?_
  cases claimed with
  | none => exact spares_done false
  | some pending =>
    refine .bind (spares_of_makes (says_briefSolvers hbriefs session _ reading now))
      fun delivered => ?_
    split
    · exact .bind (spares_of_makes (says_briefDelivered hbriefs.reports session pending now))
        fun _ => htell true
    · exact htell true

/-- What a path sends the parties are guides. -/
theorem isGuide_of_guides {path : Path} {entry : Party × Template} (h : entry ∈ guides path) :
    entry.2.isGuide = true := by
  cases path <;> simp only [guides, List.mem_cons, List.not_mem_nil, or_false] at h <;>
    rcases h with rfl | rfl <;> rfl

/-- Each guide of the path goes to a party seen without it. -/
theorem sendGuides_spec (session : Session) (path : Path) :
    Spares deployment thread (sendGuides deployment session path) := by
  refine .foldEach lasting_true (fun missing entry hentry => ?_) 0
  refine unless_received session entry.1 ?_ (spares_done missing) fun sent => ?_
  · intro hhold
    have hguide := isGuide_of_guides hentry
    rw [hhold] at hguide
    cases hguide
  · cases sent with
    | ok sent => exact spares_done missing
    | error failure => exact spares_done (missing + 1)

/-- Guiding sends the guides once the path is claimed, whoever got the brief. -/
theorem guide_spec (session : Session) (path : Path) (reading : TurnReading) (now : Int) :
    Spares deployment thread (guide deployment session path reading now) := by
  have hbriefs := briefs_unnoticed deployment
  have hguides : Spares deployment thread ((sendGuides deployment session path).bind fun _ =>
      (.done () : Daemon Unit)) :=
    .bind (sendGuides_spec session path) fun _ => spares_done ()
  refine .bind (spares_of_makes (.perform trivial fun _ _ => trivial)) fun claimed => ?_
  cases claimed with
  | none => exact spares_done ()
  | some pending =>
    refine .bind (spares_of_makes (says_briefSolvers hbriefs session _ _ now)) fun delivered => ?_
    split
    · exact .bind (spares_of_makes (says_briefDelivered hbriefs.reports session pending now))
        fun _ => hguides
    · exact hguides

/-- A guide that is missing is sent again, where a path is on record. -/
theorem resendGuides_spec (session : Session) :
    Spares deployment thread (resendGuides deployment session) := by
  refine .bind (spares_of_makes (says_query (briefs_unnoticed deployment).reports rfl)) fun path => ?_
  cases path with
  | some path => exact sendGuides_spec session path
  | none => exact spares_done 0

/-! ## Holds -/

/-- The session had a hold with this cutoff. -/
def Store.HasHold (store : Store) (id : SessionId) (cutoff : Int) : Prop :=
  ∃ event ∈ store.holds id, event.heldCutoff = cutoff

/-- A hold that started is on record from then on. -/
theorem lasting_hasHold (id : SessionId) (cutoff : Int) :
    (noticeExtension deployment).news.Lasting thread anyCall
      fun world => world.store.HasHold id cutoff := by
  constructor
  · rintro world later ⟨event, hevent, hcutoff⟩ hrely
    obtain ⟨hmem, hheld⟩ := List.mem_filter.mp hevent
    have hmark : event.kind.isMark = true := by
      have hkind := (Event.isHeld_iff.mp hheld).2
      cases hcase : event.kind <;> rw [hcase] at hkind <;> first | rfl | cases hkind
    have hmarks : event ∈ world.store.marks := List.mem_filter.mpr ⟨hmem, hmark⟩
    have hlater : event ∈ later.store.marks := hrely.1.follows.core.marks.subset hmarks
    exact ⟨event, List.mem_filter.mpr ⟨(List.mem_filter.mp hlater).1, hheld⟩, hcutoff⟩
  · rintro β call oracle world - - - - ⟨event, hevent, hcutoff⟩
    obtain ⟨hmem, hheld⟩ := List.mem_filter.mp hevent
    have hlater := (performCall_logs deployment thread call oracle world).events.subset hmem
    exact ⟨event, List.mem_filter.mpr ⟨hlater, hheld⟩, hcutoff⟩

/-- A hold notice is sent to a party that has none since the hold. -/
theorem sendHoldNotices_spec (session : Session) (cutoff : Int) :
    (noticeExtension deployment).news.Keeps thread
      (fun world => world.store.HasHold session.sessionId cutoff)
      (sendHoldNotices deployment session cutoff) := by
  have hhold : (noticeExtension deployment).news.Lasting thread anyCall
      fun world => world.store.HasHold session.sessionId cutoff := lasting_hasHold _ _
  refine .forEach hhold fun party _ => ?_
  have hread : (noticeExtension deployment).news.Learns thread
      (fun world => world.store.HasHold session.sessionId cutoff)
      (perform (.read fun store => (store.listMessages session.sessionId).any fun message =>
        message.isSent party .holdNotice && decide (message.id > cutoff)))
      fun got world => world.Saw thread.number fun store =>
        store.HasHold session.sessionId cutoff ∧
          ((store.listMessages session.sessionId).any fun message =>
            message.isSent party .holdNotice && decide (message.id > cutoff)) = got :=
    learns_of_saw (fun store => store.HasHold session.sessionId cutoff) (fun _ _ => rfl) hhold
      trivial (fun _ _ _ => trivial) fun _ _ hknown => hknown
  refine Spec.Learns.attempt_triple hread (fun got => ?_) fun _ => Spec.Keeps.done hhold ()
  cases got with
  | true =>
    exact Spec.Triple.consequence (Spec.Keeps.done hhold ()) (fun _ _ hknown => hknown.1)
      fun _ _ _ hknown => hknown
  | false =>
    have hattempt : (noticeExtension deployment).news.Triple thread
        (fun world => world.Misses thread.number ⟨session.sessionId, party, .holdNotice⟩)
        ((attempt (sendTemplate deployment session party .holdNotice)).bind fun _ =>
          (.done () : Daemon Unit)) fun _ _ => True :=
      attempt_spec session party .holdNotice fun _ => spares_done ()
    have hsend := Spec.Triple.frame hhold (.any _) hattempt
    refine hsend.consequence ?_ fun _ _ _ hknown => hknown.2
    rintro world - ⟨hknown, hsaw⟩
    refine ⟨hsaw.imp fun store hstore => ?_, hknown⟩
    obtain ⟨⟨event, hevent, rfl⟩, hnone⟩ := hstore
    -- What is newer than the newest hold is newer than this one.
    rw [Store.hasGot, List.any_eq_false]
    rw [List.any_eq_false] at hnone
    intro row hrow hgot
    refine hnone row hrow ?_
    have hcutoff := Store.le_holdCutoff hevent
    simp only [Bool.and_eq_true, bne_self_eq_false, Bool.false_or, decide_eq_true_eq] at hgot ⊢
    exact ⟨hgot.1, by omega⟩

/-- Recording a hold gives its cutoff. -/
theorem hold_spec (session : Session) (now : Int) :
    Spares deployment thread (hold deployment session now) := by
  have hhold : ∀ cutoff, (noticeExtension deployment).news.Lasting thread anyCall
      fun world => world.store.HasHold session.sessionId cutoff := lasting_hasHold _
  have hrecord : (noticeExtension deployment).news.Triple thread (fun _ => True)
      (perform (.recordHold session now)) fun result world =>
        ∀ cutoff, result = .ok cutoff → world.store.HasHold session.sessionId cutoff := by
    refine .perform (fun _ _ => trivial) (fun _ _ _ => trivial) ?_
    intro world oracle later _ _ _ hrely _ cutoff hresult
    refine (hhold cutoff).rely ?_ hrely
    change (performCall deployment thread (.recordHold session now) oracle world).1 = _ at hresult
    change (performCall deployment thread (.recordHold session now) oracle
      world).2.store.HasHold session.sessionId cutoff
    simp only [performCall, World.orFail] at hresult ⊢
    split at hresult
    · cases hresult
    · cases hresult
      refine ⟨world.store.eventRow _, List.mem_filter.mpr
        ⟨List.mem_append_right _ List.mem_cons_self, ?_⟩, rfl⟩
      exact Event.isHeld_iff.mpr ⟨rfl, rfl⟩
  refine Spec.Triple.bind _ hrecord (fun cutoff => ?_) fun _ _ _ _ => trivial
  exact (sendHoldNotices_spec session cutoff).consequence (fun _ _ hknown => hknown cutoff rfl)
    fun _ _ _ _ => trivial

/-! ## Turns -/

/-- One case for each decision: only the guides, the hold and the hand-off have notices. -/
theorem act_spec (session : Session) (reading : TurnReading) {turn : Turn}
    (hasked : ∀ party, ∀ template ∈ turn.next.templates party, template.isAsked = true)
    (now : Int) :
    Spares deployment thread (act deployment session reading turn.next now turn.decide) := by
  have hexplains := turn.explains_decide
  have hbriefs := briefs_unnoticed deployment
  cases haction : turn.decide with
  | ask buyer seller =>
    rw [haction] at hexplains
    obtain ⟨rfl, rfl⟩ := hexplains
    refine .bind (.foldEach lasting_true (fun firstInTurn party _ => ?_) true) fun _ =>
      spares_done ()
    refine .bind (.forEach lasting_true fun template htemplate => ?_) fun _ => ?_
    · refine spares_of_makes (says_sendTemplate hbriefs.reports (send_unnoticed ?_))
      have hask : template.isAsked = true := by
        cases party with
        | buyer => exact hasked .buyer template htemplate
        | seller => exact hasked .seller template htemplate
      cases template <;> first | rfl | exact absurd hask (by decide)
    · split
      · exact .bind (spares_of_makes (.perform trivial fun _ _ => trivial)) fun _ =>
          spares_done false
      · exact spares_done firstInTurn
  | handoff reason => exact .bind (handOff_spec session reason _ now) fun _ => spares_done ()
  | guide path => exact guide_spec session path reading now
  | hold =>
    exact .bind (spares_of_makes (says_query hbriefs.reports rfl)) fun started => hold_spec session _
  | wait => exact spares_done ()

/-- The evaluation is stored before anything is sent. -/
theorem decideAndAct_spec (session : Session) (messages : List Message) (phase : Phase)
    (state : JudgeState) (answers : Answers) (now : Int) :
    Spares deployment thread
      (decideAndAct deployment session messages phase state answers now) := by
  have hbriefs := briefs_unnoticed deployment
  have hlanguages : ∀ facts, Says deployment thread unnoticed
      (updateLanguages deployment session facts now) := by
    intro facts
    refine .foldEach (fun changed party _ => ?_) []
    split
    · exact .bind (.perform trivial fun _ _ => trivial) fun _ _ => trivial
    · exact trivial
  refine .bind (spares_of_makes (hlanguages _)) fun changed => ?_
  refine .bind (spares_of_makes ((makes_reload (hbriefs.query rfl)).mono id fun _ _ => trivial))
    fun current => ?_
  refine .bind (spares_of_makes (says_query hbriefs.reports rfl)) fun events => ?_
  refine .bind (spares_of_makes (.perform trivial fun _ _ => trivial)) fun _ => ?_
  exact .bind (act_spec current _ (isAsked_plan _ messages changed) now) fun _ => spares_done _

/-- A turn. -/
theorem turn_parts (deployment : Deployment) (thread : Thread Task) (id : SessionId) :
    TurnParts (noticeExtension deployment) thread unnoticed (fun _ => True) (fun _ => True) id where
  lasting := .true
  enough := fun hcall hinv hfact => suffices_unnoticed (fun _ => True) hcall hinv hfact
  briefs := briefs_unnoticed deployment
  strike _ _ _ _ _ := trivial
  load _ _ _ := trivial
  handOff session reason reading now _ _ := handOff_spec session reason reading now
  guides session _ := resendGuides_spec session
  decide session messages _ phase state answers now _ _ :=
    (decideAndAct_spec session messages phase state answers now).consequence
      (fun _ _ _ => trivial) fun _ _ _ hknown => hknown
  join _ _ _ _ := trivial

/-! ## Passes of the timers -/

/-- The timers remind a party, which is no notice, or hand the session off. -/
theorem tickSession_spec (session : Session) (now : Int) :
    Spares deployment thread (tickSession deployment session now) := by
  have hbriefs := briefs_unnoticed deployment
  refine .bind (spares_of_makes (says_query hbriefs.reports rfl)) fun read => ?_
  obtain ⟨messages, history⟩ := read
  simp only []
  split
  · exact spares_done ()
  · exact .forEach lasting_true fun party _ =>
      spares_of_makes (says_sendTemplate hbriefs.reports (send_unnoticed rfl))
  · refine .bind (spares_of_makes (says_lastReading hbriefs.reports session messages)) fun last => ?_
    exact .bind (handOff_spec session _ last now) fun _ => spares_done ()

/-- What the retries of a session read: its messages, and the cutoff of its current hold. -/
def Undelivered (number : Nat) (session : Session) (read : List Message × List Event)
    (world : World) : Prop :=
  (world.Saw number fun store => store.listMessages session.sessionId = read.1) ∧
    ∀ hold, Hold.current session.sessionId read.2 read.1 = some hold →
      world.store.HasHold session.sessionId hold.cutoff

/-- What the retries read stays seen, and the hold stays on record. -/
theorem lasting_undelivered (session : Session) (read : List Message × List Event) :
    (noticeExtension deployment).news.Lasting thread anyCall
      (Undelivered thread.number session read) := by
  have hsaw : (noticeExtension deployment).news.Lasting thread anyCall fun world =>
      world.Saw thread.number fun store => store.listMessages session.sessionId = read.1 :=
    lasting_saw _
  have hhold : ∀ cutoff, (noticeExtension deployment).news.Lasting thread anyCall
      fun world => world.store.HasHold session.sessionId cutoff := lasting_hasHold _
  constructor
  · exact fun hknown hrely => ⟨hsaw.rely hknown.1 hrely,
      fun hold hcurrent => (hhold _).rely (hknown.2 hold hcurrent) hrely⟩
  · exact fun hcall hinv hpre hcond hknown => ⟨hsaw.call hcall hinv hpre hcond hknown.1,
      fun hold hcurrent => (hhold _).call hcall hinv hpre hcond (hknown.2 hold hcurrent)⟩

/-- The current hold is one the session had. -/
theorem hasHold_of_current {store : Store} {id : SessionId} {dispute : DisputeId}
    {messages : List Message} {hold : Hold}
    (h : Hold.current id (store.listEvents dispute) messages = some hold) :
    store.HasHold id hold.cutoff := by
  unfold Hold.current at h
  split at h
  · cases h
  · next held hnewest =>
    split at h
    · cases h
    · cases h
      obtain ⟨hmem, hheld⟩ := List.mem_filter.mp (LastOf.mem_of_maxByKey hnewest)
      exact ⟨held, List.mem_filter.mpr ⟨(List.mem_filter.mp hmem).1, hheld⟩, rfl⟩

/-- A hand-off notice is retried where the rows read had none. -/
theorem retryNotice_spec (session : Session) (read : List Message × List Event) (party : Party) :
    (noticeExtension deployment).news.Keeps thread (Undelivered thread.number session read)
      (retryNotice deployment session read.1 party) := by
  have hread : (noticeExtension deployment).news.Lasting thread anyCall
      (Undelivered thread.number session read) := lasting_undelivered session read
  unfold retryNotice
  split
  · exact .done hread ()
  · next hnone =>
    have hattempt : (noticeExtension deployment).news.Triple thread
        (fun world => world.Misses thread.number ⟨session.sessionId, party, .handoffNotice⟩)
        ((attempt (sendTemplate deployment session party .handoffNotice)).bind fun _ =>
          (.done () : Daemon Unit)) fun _ _ => True :=
      attempt_spec session party .handoffNotice fun _ => spares_done ()
    refine (Spec.Triple.frame hread (.any _) hattempt).consequence ?_
      fun _ _ _ hknown => hknown.2
    refine fun world _ hknown => ⟨hknown.1.imp fun store hstore => ?_, hknown⟩
    rw [Store.hasGot, hstore, List.any_eq_false]
    intro row hrow hgot
    rw [Bool.and_eq_true] at hgot
    exact hnone (List.any_eq_true.mpr ⟨row, hrow, hgot.1⟩)

/-- The retries send the notices that the rows they read did not have. -/
theorem retryUndelivered_spec (session : Session) (now : Int) :
    Spares deployment thread (retryUndelivered deployment session now) := by
  have hbriefs := briefs_unnoticed deployment
  have hlasting : ∀ read, (noticeExtension deployment).news.Lasting thread anyCall
      (Undelivered thread.number session read) := lasting_undelivered session
  -- One look at messages and history decides what counts as undelivered.
  have hlook : (noticeExtension deployment).news.Learns thread (fun _ => True)
      (perform (.read fun store =>
        (store.listMessages session.sessionId, store.listEvents session.disputeId)))
      fun read world => Undelivered thread.number session read world := by
    let query := fun store : Store =>
      (store.listMessages session.sessionId, store.listEvents session.disputeId)
    have hquery : ∀ (oracle : Oracle) (world : World),
        performCall deployment thread (.read query) oracle world =
          world.orFail oracle (.ok (query world.store), world.look thread.number) :=
      fun _ _ => rfl
    refine learns_of_lasting _ hquery lasting_true trivial (fun _ _ _ => trivial) hlasting
      fun world _ _ => ⟨?_, fun hold hcurrent => ?_⟩
    · exact ⟨⟨thread.number, world.store⟩, List.mem_append_right _ List.mem_cons_self, rfl, rfl⟩
    · exact hasHold_of_current hcurrent
  refine Spec.Triple.bind _ hlook (fun read => ?_) fun _ _ _ _ => trivial
  refine Spec.Triple.consequence (?_ : (noticeExtension deployment).news.Triple thread
    (Undelivered thread.number session read) _ fun _ _ => True)
    (fun _ _ hknown => hknown.2 read rfl) fun _ _ _ _ => trivial
  have hspares : ∀ {program : Daemon Unit}, Spares deployment thread program →
      (noticeExtension deployment).news.Triple thread (Undelivered thread.number session read)
        program fun _ _ => True :=
    fun hprogram => hprogram.consequence (fun _ _ _ => trivial) fun _ _ _ _ => trivial
  have hbrief : ∀ messages brief, (noticeExtension deployment).news.Keeps thread
      (Undelivered thread.number session read)
      (retryBrief deployment session messages now brief) := fun messages brief =>
    keeps_of_says ((hlasting read).of_imp fun _ => trivial)
      (fun hcall hinv _ => suffices_unnoticed (fun _ => True) hcall hinv trivial)
      (says_retryBrief hbriefs session messages now brief)
  obtain ⟨messages, history⟩ := read
  simp only []
  split
  · exact hspares (spares_done ())
  refine Spec.Triple.bind _ (Spec.Keeps.forEach (hlasting (messages, history)) fun brief _ =>
    hbrief messages brief) (fun _ => ?_) fun _ _ _ _ => trivial
  -- The phase decides what is sent again: notices, guides, hold notices or nothing.
  unfold retryParties
  split
  · split
    · exact hspares (spares_done ())
    · exact Spec.Triple.consequence (Spec.Keeps.forEach (hlasting (messages, history))
        fun party _ => retryNotice_spec session (messages, history) party)
        (fun _ _ hknown => hknown) fun _ _ _ _ => trivial
  · exact hspares (.bind (resendGuides_spec session) fun _ => spares_done ())
  · split
    · next hold hheld =>
      have hcurrent := (Option.filter_eq_some_iff.mp hheld).1
      exact (sendHoldNotices_spec session hold.cutoff).consequence
        (fun _ _ hknown => hknown.2 hold hcurrent) fun _ _ _ _ => trivial
    · exact hspares (spares_done ())
  · exact hspares (spares_done ())

/-- A pass of the timers. -/
theorem pass_parts (deployment : Deployment) (thread : Thread Task) :
    PassParts (noticeExtension deployment) thread unnoticed (fun _ => True) fun _ => True where
  lasting := .true
  enough := fun hcall hinv hfact => suffices_unnoticed (fun _ => True) hcall hinv hfact
  briefs := briefs_unnoticed deployment
  openChat _ := trivial
  close := close_unnoticed deployment
  giveUp := giveUp_unnoticed
  list _ _ _ := trivial
  time session now := (tickSession_spec session now).consequence (fun _ _ _ => trivial)
    fun _ _ _ hknown => hknown
  unreachable session now := handOff_spec session .openingFailed none now
  retry := retryUndelivered_spec
  join _ _ _ := trivial

/-- **Every task** looks before it sends a notice. -/
theorem notice_launches (deployment : Deployment) :
    (noticeExtension deployment).contract.Launches := by
  refine Extension.launches (launches deployment _) ?_
  intro thread oracle world world' hinv hnoticed _ hlaunch
  have hinv' : (noticeExtension deployment).news.inv world' :=
    ⟨(launch_stepped hinv hlaunch).inv, counts_launch hnoticed.counts hlaunch,
      fun message hnotice => (hnoticed.once message hnotice).launch hlaunch⟩
  suffices htask : (noticeExtension deployment).news.Triple thread (fun _ => True)
      (program deployment thread.role) fun _ _ => True from htask world' hinv' trivial
  obtain ⟨number, role⟩ := thread
  by_cases hturn : ∃ id, role = .turn id
  · obtain ⟨id, rfl⟩ := hturn
    exact (turn_parts deployment _ id).turnLogged
  by_cases htick : role = .tick
  · subst htick
    exact (pass_parts deployment _).pass
  · exact spares_of_makes (says_program (briefs_unnoticed deployment)
      (runs_unnoticed (fun id hrole => hturn ⟨id, hrole⟩) htick))

/-- Nothing was sent at the start. -/
theorem noticed_start (clock : Int) : (World.start clock).Noticed :=
  ⟨counts_start clock, fun _ _ => World.Once.start clock⟩

/-! ## Runs -/

/-- Each notice went out once at most. -/
structure World.NoticedOnce (world : World) : Prop where
  handoff : ∀ id party, world.sent.count ⟨id, party, .handoffNotice⟩ ≤ 1
  guides : ∀ id party template, template.isGuide = true → world.sent.count ⟨id, party, template⟩ ≤ 1
  /-- Since the session's newest hold. -/
  holds : ∀ id party, world.holdNotices.count (id, party) ≤ 1

/-- **Party notices go out once** while no two tasks send one at the same time. In every state such a
run reaches, whatever the interleaving of turns and timers and whichever sends fail, each party got
the hand-off notice and each guide once per session at most, and the hold notice once per hold. -/
theorem notices_once {clock : Int} {conf : Conf Call String Task World}
    (hrun : (machine deployment).RunsTo noticesApart (Serbero.start clock) conf) :
    conf.world.NoticedOnce := by
  have hstart : (noticeExtension deployment).contract.Kept (Serbero.start clock) :=
    Contract.kept_of_start ⟨inv_start clock, noticed_start clock⟩
  have hnoticed : conf.world.Noticed := (hstart.run (notice_launches deployment) hrun).1.1.2
  refine ⟨fun id party => ?_, fun id party template hguide => ?_, fun id party => ?_⟩
  · have honce := (hnoticed.once ⟨id, party, .handoffNotice⟩ rfl).once
    have hother : Template.handoffNotice ≠ .holdNotice := by decide
    rwa [World.delivered, if_neg hother] at honce
  · have honce := (hnoticed.once ⟨id, party, template⟩ (by
      rw [Template.isNotice, hguide, Bool.true_or, Bool.true_or])).once
    rwa [World.delivered, if_neg] at honce
    rintro rfl
    cases hguide
  · have honce := (hnoticed.once ⟨id, party, .holdNotice⟩ rfl).once
    rwa [World.delivered, if_pos rfl] at honce

/-- The turn hands the session off and tells both parties, and a later pass of the timers finds
nothing to send. -/
theorem notices_once_told :
    let told := unjudgedSteps ++ quietly 3 22 ++
      [.happen (.clock 1300), .launch .tick .quiet] ++ quietly 4 3
    ((machine smallDeployment).after noticesApart (Serbero.start 1000) told).world.NoticedOnce :=
  notices_once ((machine smallDeployment).runsTo_after (by decide +kernel))

/-- The turn saw that the buyer has no notice, and stands before its send when the retry grace ends:
the timers send the notice, and then the turn does. -/
theorem not_notices_once :
    ¬∀ conf, (machine smallDeployment).RunsTo noticesKept (Serbero.start 1000) conf →
      conf.world.NoticedOnce := by
  intro h
  let overtaken := unjudgedSteps ++ quietly 3 13 ++ [.happen (.clock 1300), .launch .tick .quiet] ++
    quietly 4 8 ++ quietly 3 3
  let conf := (machine smallDeployment).after noticesKept (Serbero.start 1000) overtaken
  have htwice := (h conf ((machine smallDeployment).runsTo_after (by decide +kernel))).handoff 0
    .buyer
  revert htwice
  decide +kernel

end Serbero
