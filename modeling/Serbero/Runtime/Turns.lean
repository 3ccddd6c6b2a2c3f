import Serbero.Runtime.Looks

/-! # Turns and passes of the timers, part by part

What a turn needs is known when its parts know it: the hand-offs, the guidance and the decision. The
same for a pass of the timers and its parts for each session. -/

namespace Serbero

open Pool
open Pool.Program

variable {deployment : Deployment} {condition : Condition Call Task Oracle Happening World}

/-- What the allowed calls need is known. -/
def Suffices (extension : Extension (contract deployment condition)) (thread : Thread Task)
    (allowed : {β : Type} → Call β → Prop) (fact : World → Prop) : Prop :=
  ∀ {β : Type} {call : Call β} {world}, allowed call → extension.news.inv world → fact world →
    extension.pre thread call world

variable {extension : Extension (contract deployment condition)} {thread : Thread Task}
  {allowed : {β : Type} → Call β → Prop} {fact : World → Prop}

/-- A program of allowed calls keeps what lasts over them. -/
theorem keeps_of_says {α : Type} {program : Daemon α}
    (hfact : extension.news.Lasting thread allowed fact)
    (hpre : Suffices extension thread allowed fact)
    (h : Says deployment thread allowed program) : extension.news.Keeps thread fact program :=
  (Spec.triple_of_makes hfact (fun hcall hinv hknown => hpre hcall hinv hknown) h).consequence
    (fun _ _ hknown => hknown) fun _ _ _ hknown => hknown.1

/-- What a turn loads is the session of its id. -/
theorem Store.sessionId_of_load {store : Store} {id : SessionId} {session : Session}
    {messages : List Message} {openedBy : Initiator}
    (h : store.load id = some (session, messages, openedBy)) : session.sessionId = id := by
  obtain ⟨found, hfound, hrest⟩ := Option.bind_eq_some_iff.mp h
  obtain ⟨dispute, -, heq⟩ := Option.map_eq_some_iff.mp hrest
  cases heq
  exact Store.sessionId_of_session hfound

/-! ## Turns -/

/-- What is known once the session is loaded: how the store was when it was. -/
def loadedFrom (property : Store → Prop) (thread : Thread Task) (fact : World → Prop)
    (session : Session) (messages : List Message) (openedBy : Initiator) (world : World) : Prop :=
  fact world ∧ world.Saw thread.number fun store =>
    property store ∧ store.load session.sessionId = some (session, messages, openedBy)

/-- The parts of a turn of the session, and what each of them needs to know: all that rest on a
session rest on it as the turn loaded it. -/
structure TurnSteps (extension : Extension (contract deployment condition)) (thread : Thread Task)
    (allowed : {β : Type} → Call β → Prop) (fact : World → Prop) (property : Store → Prop)
    (id : SessionId) : Prop where
  lasting : extension.news.Lasting thread allowed fact
  enough : Suffices extension thread allowed fact
  briefs : AllowsBriefs deployment allowed
  strike : ∀ dispute party count last now,
    allowed (.append ⟨dispute, some id, .floodStrike party count last, now⟩)
  load : ∀ world, extension.news.inv world → fact world → property world.store
  /-- Only a session that gathers or guides is handed off. -/
  handOff : ∀ session messages openedBy phase reason reading now, session.sessionId = id →
    phaseOf session.state = some phase → reason ≠ .unresponsive → extension.news.Triple thread
      (loadedFrom property thread fact session messages openedBy)
      (Serbero.handOff deployment session reason reading now) fun _ => fact
  guides : ∀ session messages openedBy, session.sessionId = id → session.state = .guiding →
    extension.news.Triple thread (loadedFrom property thread fact session messages openedBy)
      (resendGuides deployment session) fun _ => fact
  decide : ∀ session messages openedBy phase state answers now, session.sessionId = id →
    phaseOf session.state = some phase → extension.news.Triple thread
      (loadedFrom property thread fact session messages openedBy)
      (decideAndAct deployment session messages phase state answers now) fun _ => fact
  join : ∀ again world, extension.news.inv world → fact world →
    extension.pre thread (.joinTurn again) world

namespace TurnSteps

variable {property : Store → Prop} {id : SessionId}

/-- A part without a need of its own. -/
theorem keeps (h : TurnSteps extension thread allowed fact property id) {α : Type}
    {program : Daemon α} (hmakes : Says deployment thread allowed program) :
    extension.news.Keeps thread fact program :=
  keeps_of_says h.lasting h.enough hmakes

/-- What was loaded stays seen through every allowed call. -/
theorem lasting_loaded (h : TurnSteps extension thread allowed fact property id)
    (session : Session) (messages : List Message) (openedBy : Initiator) :
    extension.news.Lasting thread allowed
      (loadedFrom property thread fact session messages openedBy) :=
  h.lasting.and ((lasting_saw _).of_imp fun _ => trivial)

/-- Before the decision nothing of what was loaded is lost. -/
theorem says_loaded (h : TurnSteps extension thread allowed fact property id) (session : Session)
    (messages : List Message) (openedBy : Initiator) {α : Type} {program : Daemon α}
    (hmakes : Says deployment thread allowed program) :
    extension.news.Keeps thread (loadedFrom property thread fact session messages openedBy)
      program :=
  keeps_of_says (h.lasting_loaded session messages openedBy)
    (fun hcall hinv hknown => h.enough hcall hinv hknown.1) hmakes

/-- A turn that is over once the session is loaded. -/
theorem ended (h : TurnSteps extension thread allowed fact property id) (session : Session)
    (messages : List Message) (openedBy : Initiator) (outcome : TurnOutcome) :
    extension.news.Triple thread (loadedFrom property thread fact session messages openedBy)
      (.done outcome) fun _ => fact :=
  Spec.Triple.consequence (Spec.Keeps.done h.lasting outcome) (fun _ _ hknown => hknown.1)
    fun _ _ _ hknown => hknown

/-- A turn that hands its session off and is over. -/
theorem handsOff (h : TurnSteps extension thread allowed fact property id) {session : Session}
    (hid : session.sessionId = id) (messages : List Message) (openedBy : Initiator) {phase : Phase}
    (hphase : phaseOf session.state = some phase) {reason : HandoffReason}
    (hreason : reason ≠ .unresponsive) (reading : Option TurnReading) (now : Int)
    (outcome : TurnOutcome) :
    extension.news.Triple thread (loadedFrom property thread fact session messages openedBy)
      ((Serbero.handOff deployment session reason reading now).bind fun _ =>
        (.done outcome : Daemon TurnOutcome)) fun _ => fact :=
  Spec.Triple.bind (fun _ => fact)
    (h.handOff session messages openedBy phase reason reading now hid hphase hreason)
    (fun _ => Spec.Keeps.done h.lasting outcome) fun _ _ _ hknown => hknown

/-- The judge's answer, or the hand-off without one. -/
theorem judgeTurn (h : TurnSteps extension thread allowed fact property id) {session : Session}
    (hid : session.sessionId = id) {messages : List Message} (openedBy : Initiator) {phase : Phase}
    (hphase : phaseOf session.state = some phase) (state : JudgeState) (now : Int) :
    extension.news.Triple thread (loadedFrom property thread fact session messages openedBy)
      (Serbero.judgeTurn deployment session messages phase state now) fun _ => fact := by
  have query : ∀ {α : Type} {call : Call α}, call.isQuery = true →
      extension.news.Keeps thread (loadedFrom property thread fact session messages openedBy)
        (perform call) :=
    fun hquery => h.says_loaded session messages openedBy (says_query h.briefs.reports hquery)
  refine Spec.Triple.attempt_bind (query rfl) fun judged => ?_
  cases judged with
  | error failure =>
    exact h.handsOff hid messages openedBy hphase (by decide) none now (.judgeFailed failure)
  | ok answers =>
    refine Spec.Triple.bind _ (query rfl) (fun newer => ?_) fun _ _ _ hknown => hknown.1
    split
    · exact h.ended session messages openedBy _
    refine Spec.Triple.bind _ (query rfl) (fun moved => ?_) fun _ _ _ hknown => hknown.1
    split
    · exact h.ended session messages openedBy _
    · exact h.decide session messages openedBy phase state answers now hid hphase

/-- The flood check comes first, then the judge. -/
theorem liveTurn (h : TurnSteps extension thread allowed fact property id) {session : Session}
    (hid : session.sessionId = id) {messages : List Message} (openedBy : Initiator) {phase : Phase}
    (hphase : phaseOf session.state = some phase) (now : Int) :
    extension.news.Triple thread (loadedFrom property thread fact session messages openedBy)
      (Serbero.liveTurn deployment session messages openedBy phase now) fun _ => fact := by
  unfold Serbero.liveTurn
  simp only []
  split
  · exact h.ended session messages openedBy _
  refine Spec.Triple.bind _ (h.says_loaded session messages openedBy
    (says_flooded h.briefs.reports (hid ▸ h.strike) messages now)) (fun flood => ?_)
    fun _ _ _ hknown => hknown.1
  split
  · refine Spec.Triple.bind _ (h.says_loaded session messages openedBy
      (says_lastReading h.briefs.reports session messages)) (fun last => ?_)
      fun _ _ _ hknown => hknown.1
    exact h.handsOff hid messages openedBy hphase (by decide) last now _
  · exact h.judgeTurn hid openedBy hphase _ now

/-- A judge that is not ready ends the turn. -/
theorem mediatingTurn (h : TurnSteps extension thread allowed fact property id) {session : Session}
    (hid : session.sessionId = id) {messages : List Message} (openedBy : Initiator) (now : Int) :
    extension.news.Triple thread (loadedFrom property thread fact session messages openedBy)
      (Serbero.mediatingTurn deployment session messages openedBy now) fun _ => fact := by
  refine Spec.Triple.bind _ (h.says_loaded session messages openedBy (says_query h.briefs.reports rfl))
    (fun ready => ?_) fun _ _ _ hknown => hknown.1
  split
  · exact h.ended session messages openedBy _
  split
  · exact h.ended session messages openedBy _
  · next phase hphase => exact h.liveTurn hid openedBy hphase now

/-- A turn, by the state of the session it loads. -/
theorem runTurn (h : TurnSteps extension thread allowed fact property id) (now : Int) :
    extension.news.Keeps thread fact (Serbero.runTurn deployment id now) := by
  have hload : extension.news.Learns thread fact (perform (.load id)) fun value world =>
      world.Saw thread.number fun store => property store ∧ store.load id = value :=
    learns_of_saw property (fun _ _ => rfl) h.lasting (h.briefs.query rfl)
      (fun _ hinv hknown => h.enough (h.briefs.query rfl) hinv hknown) h.load
  refine Spec.Triple.bind _ hload (fun loaded => ?_) fun _ _ _ hknown => hknown.1
  match loaded with
  | none =>
    exact Spec.Triple.consequence (Spec.Keeps.done h.lasting _) (fun _ _ hknown => hknown.1)
      fun _ _ _ hknown => hknown
  -- From here on the facts are about the rows as they were loaded.
  | some (session, messages, openedBy) =>
    intro world hinv hknown
    obtain ⟨look, hlook, hthread, hproperty, hloaded⟩ := hknown.2 _ rfl
    have hid := Store.sessionId_of_load hloaded
    subst hid
    have mediating : extension.news.Triple thread
        (loadedFrom property thread fact session messages openedBy)
        (Serbero.mediatingTurn deployment session messages openedBy now) fun _ => fact :=
      h.mediatingTurn rfl openedBy now
    refine (?_ : extension.news.Triple thread
      (loadedFrom property thread fact session messages openedBy) _ fun _ => fact)
      world hinv ⟨hknown.1, look, hlook, hthread, hproperty, hloaded⟩
    simp only []
    split
    -- A handed-off session only has its updates forwarded.
    · have hforward := Spec.Keeps.bind (h.keeps (says_forwardUpdates h.briefs.reports session now))
        fun count => Spec.Keeps.done h.lasting (TurnOutcome.forwarded count)
      exact Spec.Triple.consequence hforward (fun _ _ hknown => hknown.1)
        fun _ _ _ hknown => hknown
    · next hstate =>
      have hsaw : extension.news.Lasting thread anyCall fun world => world.Saw thread.number
          fun store => property store ∧
            store.load session.sessionId = some (session, messages, openedBy) := lasting_saw _
      have hguides := Spec.Triple.frame hsaw (.any _)
        (h.guides session messages openedBy rfl hstate)
      refine Spec.Triple.attempt_bind (hguides.consequence (fun _ _ hknown => ⟨hknown, hknown.2⟩)
        fun _ _ _ hknown => hknown) fun _ => mediating
    · exact mediating

/-- A turn joins the loop however it ended. -/
theorem turnLogged (h : TurnSteps extension thread allowed fact property id) :
    extension.news.Triple thread fact (Serbero.turnLogged deployment id) fun _ _ => True := by
  have hjoin : ∀ again, extension.news.Triple thread fact (perform (.joinTurn again))
      fun _ _ => True :=
    fun again => .perform h.lasting.rely (h.join again) fun _ _ _ _ _ _ _ _ => trivial
  refine Spec.Triple.bind _ (h.keeps (says_query h.briefs.reports rfl)) (fun now => ?_)
    fun _ _ _ _ => trivial
  refine Spec.Triple.attempt_bind (h.runTurn now) fun outcome => ?_
  split
  · exact hjoin true
  · exact hjoin false

end TurnSteps

/-- The parts of a turn of the session, and what each of them needs to know. -/
structure TurnParts (extension : Extension (contract deployment condition)) (thread : Thread Task)
    (allowed : {β : Type} → Call β → Prop) (fact : World → Prop) (property : Store → Prop)
    (id : SessionId) : Prop where
  lasting : extension.news.Lasting thread allowed fact
  enough : Suffices extension thread allowed fact
  briefs : AllowsBriefs deployment allowed
  strike : ∀ dispute party count last now,
    allowed (.append ⟨dispute, some id, .floodStrike party count last, now⟩)
  load : ∀ world, extension.news.inv world → fact world → property world.store
  handOff : ∀ session reason reading now, session.sessionId = id → reason ≠ .unresponsive →
    extension.news.Keeps thread fact (Serbero.handOff deployment session reason reading now)
  guides : ∀ session, session.sessionId = id →
    extension.news.Keeps thread fact (resendGuides deployment session)
  /-- The decision rests on what the turn loaded. -/
  decide : ∀ session messages openedBy phase state answers now, session.sessionId = id →
    phaseOf session.state = some phase → extension.news.Triple thread
      (fun world => fact world ∧ world.Saw thread.number fun store =>
        property store ∧ store.load id = some (session, messages, openedBy))
      (decideAndAct deployment session messages phase state answers now) fun _ => fact
  join : ∀ again world, extension.news.inv world → fact world →
    extension.pre thread (.joinTurn again) world

namespace TurnParts

variable {property : Store → Prop} {id : SessionId}

/-- Parts that ask less of the loaded session. -/
theorem steps (h : TurnParts extension thread allowed fact property id) :
    TurnSteps extension thread allowed fact property id where
  lasting := h.lasting
  enough := h.enough
  briefs := h.briefs
  strike := h.strike
  load := h.load
  handOff session _ _ _ reason reading now hid _ hreason :=
    (h.handOff session reason reading now hid hreason).consequence (fun _ _ hknown => hknown.1)
      fun _ _ _ hknown => hknown
  guides session _ _ hid _ := (h.guides session hid).consequence (fun _ _ hknown => hknown.1)
    fun _ _ _ hknown => hknown
  decide session messages openedBy phase state answers now hid hphase := by
    subst hid
    exact h.decide session messages openedBy phase state answers now rfl hphase
  join := h.join

/-- So does one built from its parts. -/
theorem turnLogged (h : TurnParts extension thread allowed fact property id) :
    extension.news.Triple thread fact (Serbero.turnLogged deployment id) fun _ _ => True :=
  h.steps.turnLogged

end TurnParts

/-! ## Passes of the timers -/

/-- The parts of a pass of the timers, and what each of them needs to know. -/
structure PassParts (extension : Extension (contract deployment condition)) (thread : Thread Task)
    (allowed : {β : Type} → Call β → Prop) (fact : World → Prop) (property : Store → Prop) :
    Prop where
  lasting : extension.news.Lasting thread allowed fact
  enough : Suffices extension thread allowed fact
  briefs : AllowsBriefs deployment allowed
  openChat : ∀ id, allowed (.openChat id)
  close : MayClose deployment allowed
  giveUp : ∀ dispute, MayGiveUp allowed dispute
  list : ∀ world, extension.news.inv world → fact world → property world.store
  /-- The timers rest on the session that the pass listed. -/
  time : ∀ session now, extension.news.Triple thread
    (fun world => fact world ∧ world.Saw thread.number fun store =>
      property store ∧ session ∈ store.listLive)
    (tickSession deployment session now) fun _ => fact
  unreachable : ∀ session now,
    extension.news.Keeps thread fact (handOff deployment session .openingFailed none now)
  retry : ∀ session now, extension.news.Keeps thread fact (retryUndelivered deployment session now)
  join : ∀ world, extension.news.inv world → fact world → extension.pre thread .joinTick world

/-- What a part of a pass knows of a session: the pass listed it. -/
def listedFrom (property : Store → Prop) (thread : Thread Task) (fact : World → Prop)
    (session : Session) (world : World) : Prop :=
  fact world ∧ world.Saw thread.number fun store => property store ∧ session ∈ store.listLive

/-- The parts of a pass of the timers, and what each of them needs to know: all that rest on a
session rest on it as the pass listed it, and the closings are a part of their own. -/
structure PassSteps (extension : Extension (contract deployment condition)) (thread : Thread Task)
    (allowed : {β : Type} → Call β → Prop) (fact : World → Prop) (property : Store → Prop) :
    Prop where
  lasting : extension.news.Lasting thread allowed fact
  enough : Suffices extension thread allowed fact
  briefs : AllowsBriefs deployment allowed
  openChat : ∀ id, allowed (.openChat id)
  giveUp : ∀ dispute, MayGiveUp allowed dispute
  list : ∀ world, extension.news.inv world → fact world → property world.store
  /-- Only the sessions that gather or guide are timed. -/
  time : ∀ session now, session.state = .active ∨ session.state = .guiding →
    extension.news.Triple thread (listedFrom property thread fact session)
      (tickSession deployment session now) fun _ => fact
  unreachable : ∀ session now, session.state = .active ∨ session.state = .guiding →
    extension.news.Triple thread (listedFrom property thread fact session)
      (handOff deployment session .openingFailed none now) fun _ => fact
  retry : ∀ session now, extension.news.Triple thread (listedFrom property thread fact session)
    (retryUndelivered deployment session now) fun _ => fact
  finish : ∀ since now, extension.news.Keeps thread fact (finishPending deployment since now)
  join : ∀ world, extension.news.inv world → fact world → extension.pre thread .joinTick world

namespace PassSteps

variable {property : Store → Prop}

/-- A part without a need of its own. -/
theorem keeps (h : PassSteps extension thread allowed fact property) {α : Type}
    {program : Daemon α} (hmakes : Says deployment thread allowed program) :
    extension.news.Keeps thread fact program :=
  keeps_of_says h.lasting h.enough hmakes

/-- The sessions that the pass listed. -/
def listed (property : Store → Prop) (thread : Thread Task) (fact : World → Prop)
    (live : List Session) (world : World) : Prop :=
  fact world ∧ world.Saw thread.number fun store => property store ∧ store.listLive = live

/-- What was listed stays seen through every allowed call. -/
theorem lasting_listed (h : PassSteps extension thread allowed fact property)
    (live : List Session) :
    extension.news.Lasting thread allowed (listed property thread fact live) :=
  h.lasting.and ((lasting_saw _).of_imp fun _ => trivial)

/-- What a part keeps is known beside what the pass listed. -/
theorem keeps_listed {live : List Session} {session : Session} (hsession : session ∈ live)
    {α : Type} {program : Daemon α}
    (hkeeps : extension.news.Triple thread (listedFrom property thread fact session) program
      fun _ => fact) :
    extension.news.Keeps thread (listed property thread fact live) program := by
  have hsaw : extension.news.Lasting thread anyCall fun world => world.Saw thread.number
      fun store => property store ∧ store.listLive = live := lasting_saw _
  refine (Spec.Triple.frame hsaw (.any program) hkeeps).consequence ?_ fun _ _ _ hknown => hknown
  rintro world - ⟨hknown, hlisted⟩
  refine ⟨⟨hknown, hlisted.imp fun store hstore => ⟨hstore.1, ?_⟩⟩, hlisted⟩
  rw [hstore.2]
  exact hsession

/-- A listed session is timed or handed off, and then served its retries. -/
theorem tickLive (h : PassSteps extension thread allowed fact property) {live : List Session}
    (now : Int) {session : Session} (hsession : session ∈ live) :
    extension.news.Keeps thread (listed property thread fact live)
      (Serbero.tickLive deployment now session) := by
  have hlisted := h.lasting_listed live
  refine .bind (.attempt ?_) fun _ => .bind (.attempt (keeps_listed hsession (h.retry session now)))
    fun _ => Spec.Keeps.done hlisted ()
  split
  · next htimed =>
    have hopen : extension.news.Keeps thread (listed property thread fact live) (chatOpen session) :=
      keeps_of_says hlisted (fun hcall hinv hknown => h.enough hcall hinv hknown.1)
        (says_chatOpen h.briefs.reports h.openChat session)
    refine .bind hopen fun isOpen => ?_
    split
    · exact keeps_listed hsession (h.time session now htimed)
    · exact .bind (keeps_listed hsession (h.unreachable session now htimed)) fun _ =>
        Spec.Keeps.done hlisted ()
  · exact Spec.Keeps.done hlisted ()

/-- The listed sessions one after another, then the closings and the opening notices. -/
theorem tick (h : PassSteps extension thread allowed fact property) (now : Int) :
    extension.news.Keeps thread fact (Serbero.tick deployment now) := by
  have hlist : extension.news.Learns thread fact (perform (.read Store.listLive))
      fun value world => world.Saw thread.number fun store =>
        property store ∧ store.listLive = value :=
    learns_of_saw property (fun _ _ => rfl) h.lasting (h.briefs.query rfl)
      (fun _ hinv hknown => h.enough (h.briefs.query rfl) hinv hknown) h.list
  refine Spec.Triple.bind _ hlist (fun live => ?_) fun _ _ _ hknown => hknown.1
  have hlive : extension.news.Keeps thread (listed property thread fact live)
      (forEach (Serbero.tickLive deployment now) live) :=
    .forEach (h.lasting_listed live) fun session hsession => h.tickLive now hsession
  refine Spec.Triple.bind (fun _ => fact) (hlive.consequence
    (fun _ _ hknown => ⟨hknown.1, hknown.2 live rfl⟩) fun _ _ _ hknown => hknown.1)
    (fun _ => ?_) fun _ _ _ hknown => hknown
  refine Spec.Keeps.bind (h.finish _ now) fun _ => ?_
  exact h.keeps (says_retryOpeningNotices h.briefs.reports h.giveUp now)

/-- A pass joins the loop however it ended. -/
theorem pass (h : PassSteps extension thread allowed fact property) :
    extension.news.Triple thread fact (program deployment .tick) fun _ _ => True := by
  refine Spec.Triple.bind _ (h.keeps (says_query h.briefs.reports rfl)) (fun now => ?_)
    fun _ _ _ _ => trivial
  refine Spec.Triple.attempt_bind (h.tick now) fun _ => ?_
  exact .perform h.lasting.rely h.join fun _ _ _ _ _ _ _ _ => trivial

end PassSteps

/-- The parts of a pass of the timers, and what each of them needs to know: all that rest on a
session rest on it as the pass listed it. -/
structure PassWalk (extension : Extension (contract deployment condition)) (thread : Thread Task)
    (allowed : {β : Type} → Call β → Prop) (fact : World → Prop) (property : Store → Prop) :
    Prop where
  lasting : extension.news.Lasting thread allowed fact
  enough : Suffices extension thread allowed fact
  briefs : AllowsBriefs deployment allowed
  openChat : ∀ id, allowed (.openChat id)
  close : MayFinish deployment allowed
  giveUp : ∀ dispute, MayGiveUp allowed dispute
  list : ∀ world, extension.news.inv world → fact world → property world.store
  /-- Only the sessions that gather or guide are timed. -/
  time : ∀ session now, session.state = .active ∨ session.state = .guiding →
    extension.news.Triple thread (fun world => fact world ∧ world.Saw thread.number fun store =>
      property store ∧ session ∈ store.listLive)
      (tickSession deployment session now) fun _ => fact
  unreachable : ∀ session now,
    extension.news.Keeps thread fact (handOff deployment session .openingFailed none now)
  retry : ∀ session now, extension.news.Triple thread
    (fun world => fact world ∧ world.Saw thread.number fun store =>
      property store ∧ session ∈ store.listLive)
    (retryUndelivered deployment session now) fun _ => fact
  join : ∀ world, extension.news.inv world → fact world → extension.pre thread .joinTick world

namespace PassWalk

variable {property : Store → Prop}

/-- Parts whose closings need nothing of their own. -/
theorem steps (h : PassWalk extension thread allowed fact property) :
    PassSteps extension thread allowed fact property where
  lasting := h.lasting
  enough := h.enough
  briefs := h.briefs
  openChat := h.openChat
  giveUp := h.giveUp
  list := h.list
  time := h.time
  unreachable session now _ := (h.unreachable session now).consequence
    (fun _ _ hknown => hknown.1) fun _ _ _ hknown => hknown
  retry := h.retry
  finish since now := keeps_of_says h.lasting h.enough
    (says_finishPending h.briefs.reports h.close since now)
  join := h.join

/-- So does one whose closings need nothing of their own. -/
theorem pass (h : PassWalk extension thread allowed fact property) :
    extension.news.Triple thread fact (program deployment .tick) fun _ _ => True :=
  h.steps.pass

end PassWalk

namespace PassParts

variable {property : Store → Prop}

/-- Parts that ask less of the listed session. -/
theorem walk (h : PassParts extension thread allowed fact property) :
    PassWalk extension thread allowed fact property where
  lasting := h.lasting
  enough := h.enough
  briefs := h.briefs
  openChat := h.openChat
  close := h.close.finishes
  giveUp := h.giveUp
  list := h.list
  time session now _ := h.time session now
  unreachable := h.unreachable
  retry session now := (h.retry session now).consequence (fun _ _ hknown => hknown.1)
    fun _ _ _ hknown => hknown
  join := h.join

/-- So does one whose parts ask less of the session. -/
theorem pass (h : PassParts extension thread allowed fact property) :
    extension.news.Triple thread fact (program deployment .tick) fun _ _ => True :=
  h.walk.pass

end PassParts

end Serbero
