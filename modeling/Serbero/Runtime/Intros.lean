import Serbero.Catalog.Rules
import Serbero.Runtime.Lifecycle
import Serbero.Runtime.Looks
import Serbero.Runtime.Replay
import Serbero.Runtime.Silence

/-! # The intro of a language

A party's first message in a language starts with the intro of that language, which says what writes
to it. What the catalogs render with and without it, what a task must have seen to store a message
with it, and what that makes of the messages a party was sent. -/

namespace Serbero

open Pool Relation
open Pool.Program

/-! ## The catalogs of a deployment -/

/-- The id of a template in the catalogs. -/
def Template.id : Template → String
  | intro => introId
  | askBuyerSent => "ask_buyer_sent"
  | askBuyerSentSimple => "ask_buyer_sent_simple"
  | askBuyerDetails => "ask_buyer_details"
  | askSellerReceived => "ask_seller_received"
  | askSellerReceivedSimple => "ask_seller_received_simple"
  | askSellerCheckAccount => "ask_seller_check_account"
  | whatHappensNext => "what_happens_next"
  | thanksWaiting => "thanks_waiting"
  | waitingOtherParty => "waiting_other_party"
  | reminder => "reminder"
  | guideArrivedSeller => "guide_arrived_seller"
  | guideArrivedBuyer => "guide_arrived_buyer"
  | guideNotSentBuyer => "guide_not_sent_buyer"
  | guideNotSentSeller => "guide_not_sent_seller"
  | resolvedThanks => "resolved_thanks"
  | holdNotice => "hold_notice"
  | handoffNotice => "handoff_notice"

namespace Catalogs

variable (catalogs : Catalogs)

/-- A template in a language, with or without the intro before it. -/
def render (lang : String) (template : Template) (withIntro : Bool)
    (amount : Option (String × String)) : Except String String :=
  match catalogs.byCode[lang]? with
  | none => .error s!"no catalog for {lang}"
  | some catalog =>
    let amount := amount.map fun known => Amount.mk known.1 known.2
    if withIntro then catalog.renderOpening template.id amount
    else catalog.render template.id amount

/-- The text begins with the intro of the language and a blank line. -/
def introduces (lang text : String) : Bool :=
  match catalogs.byCode[lang]? with
  | none => false
  | some catalog =>
    match catalog.render introId none with
    | .error _ => false
    | .ok intro => (intro ++ "\n\n").toList.isPrefixOf text.toList

/-- No template's own text begins with the intro. -/
def IntrosApart : Prop :=
  ∀ lang template amount text, template ≠ .intro →
    catalogs.render lang template false amount = .ok text → catalogs.introduces lang text = false

variable {catalogs}

/-- A text rendered with the intro begins with it. -/
theorem introduces_of_render {lang text : String} {template : Template}
    {amount : Option (String × String)} (h : catalogs.render lang template true amount = .ok text) :
    catalogs.introduces lang text = true := by
  unfold render at h
  unfold introduces
  cases hcatalog : catalogs.byCode[lang]? with
  | none =>
    rw [hcatalog] at h
    cases h
  | some catalog =>
    rw [hcatalog] at h
    simp only [if_true, Catalog.renderOpening] at h ⊢
    cases hintro : catalog.render introId none with
    | error failure =>
      rw [hintro] at h
      cases h
    | ok intro =>
      rw [hintro] at h
      cases hquestion : catalog.render template.id
          (amount.map fun known => Amount.mk known.1 known.2) with
      | error failure =>
        rw [hquestion] at h
        cases h
      | ok question =>
        rw [hquestion] at h
        cases h
        rw [List.isPrefixOf_iff_prefix]
        simp only [String.toList_append]
        exact List.prefix_append _ _

end Catalogs

/-- The deployment with its catalogs. -/
def Deployment.speaking (deployment : Deployment) (catalogs : Catalogs) : Deployment :=
  { deployment with render := catalogs.render }

/-! ## What a party was sent -/

namespace Store

variable (store : Store)

/-- What Serbero stored for a party in a language, oldest first. -/
def writtenIn (id : SessionId) (party : Party) (lang : String) : List Message :=
  store.messages.filter fun message =>
    message.sessionId == id && message.isTo party && message.lang == some lang

/-- Each party of the session was written to. -/
def Greeted (id : SessionId) : Prop :=
  ∀ party, ∃ message ∈ store.messages, message.sessionId = id ∧ message.isTo party = true

variable {store}

/-- A message is written in the language when it is to the party and says so. -/
theorem mem_writtenIn {id : SessionId} {party : Party} {lang : String} {message : Message} :
    message ∈ store.writtenIn id party lang ↔ message ∈ store.messages ∧
      message.sessionId = id ∧ message.isTo party = true ∧ message.lang = some lang := by
  rw [writtenIn, List.mem_filter, Bool.and_eq_true, Bool.and_eq_true, beq_iff_eq, beq_iff_eq,
    and_assoc]

/-- What was stored is not taken back. -/
theorem Greeted.mono {later : Store} {id : SessionId} (h : store.Greeted id)
    (hmessages : store.messages <+: later.messages) : later.Greeted id := by
  intro party
  obtain ⟨message, hmessage, hrest⟩ := h party
  exact ⟨message, hmessages.subset hmessage, hrest⟩

/-- Where a party was written to, it needs the intro if it was not written to in the language. -/
theorem needsIntro_iff {id : SessionId} {party : Party} {lang : String} (h : store.Greeted id) :
    needsIntro (store.listMessages id) party lang = true ↔ store.writtenIn id party lang = [] := by
  obtain ⟨message, hmessage, hid, hto⟩ := h party
  have hsent : ((store.listMessages id).filter (·.isTo party)).isEmpty = false := by
    rw [List.isEmpty_eq_false_iff]
    exact List.ne_nil_of_mem (List.mem_filter.mpr ⟨mem_listMessages.mpr ⟨hmessage, hid⟩, hto⟩)
  rw [needsIntro]
  simp only [hsent, Bool.not_false, Bool.true_and]
  constructor
  · intro hall
    rw [List.eq_nil_iff_forall_not_mem]
    intro found hfound
    obtain ⟨hmem, hsession, hparty, hlang⟩ := mem_writtenIn.mp hfound
    have hother := List.all_eq_true.mp hall found
      (List.mem_filter.mpr ⟨mem_listMessages.mpr ⟨hmem, hsession⟩, hparty⟩)
    simp [hlang] at hother
  · intro hnil
    rw [List.all_eq_true]
    intro found hfound
    obtain ⟨hmem, hparty⟩ := List.mem_filter.mp hfound
    obtain ⟨hmem, hsession⟩ := mem_listMessages.mp hmem
    by_contra hsame
    have : found ∈ store.writtenIn id party lang :=
      mem_writtenIn.mpr ⟨hmem, hsession, hparty, by simpa using hsame⟩
    rw [hnil] at this
    cases this

end Store

/-- The session's opening reached both parties: it gathers or guides, or was handed off from there. -/
def Session.reached (session : Session) : Bool :=
  match session.state with
  | .active | .guiding => true
  | .handedOff => session.handoffReason != some .openingFailed
  | _ => false

/-- A session that is not opening was reached before it is found so. -/
theorem Session.Becomes.reached {before after : Session} (h : before.Becomes after)
    (hhanded : before.state = .handedOff → before.handoffReason ≠ none)
    (hopening : before.state ≠ .opening) (hreached : after.reached = true) :
    before.reached = true := by
  have hstage := h.stage
  cases hbefore : before.state with
  | opening => exact absurd hbefore hopening
  | active => rw [Session.reached, hbefore]
  | guiding => rw [Session.reached, hbefore]
  | handedOff =>
    rw [Session.reached, hbefore]
    obtain ⟨reason, hreason⟩ := Option.ne_none_iff_exists'.mp (hhanded hbefore)
    have hafter := h.reason reason hreason
    rw [hbefore] at hstage
    cases hstate : after.state with
    | handedOff =>
      rw [Session.reached, hstate, hafter] at hreached
      rw [hreason]
      exact hreached
    | opening => rw [hstate] at hstage; exact absurd hstage (by decide)
    | active => rw [hstate] at hstage; exact absurd hstage (by decide)
    | guiding => rw [hstate] at hstage; exact absurd hstage (by decide)
    | superseded => rw [Session.reached, hstate] at hreached; cases hreached
    | closed => rw [Session.reached, hstate] at hreached; cases hreached
  | superseded =>
    have hsame := (h.ended (by rw [hbefore]; rfl)).1
    rw [Session.reached, hsame, hbefore] at hreached
    cases hreached
  | closed =>
    have hsame := (h.ended (by rw [hbefore]; rfl)).1
    rw [Session.reached, hsame, hbefore] at hreached
    cases hreached

/-! ## Where parties were written to -/

/-- Both parties of every session that was reached were written to. -/
def Store.Reaches (store : Store) : Prop :=
  ∀ session ∈ store.sessions, session.reached = true → store.Greeted session.sessionId

/-- The messages are of sessions that there are, and every look saw the first of them; both parties
of a reached session were written to. -/
structure World.Welcomed (world : World) : Prop where
  known : ∀ message ∈ world.store.messages, message.sessionId < world.store.sessions.length
  looked : ∀ look ∈ world.looks, look.store.messages <+: world.store.messages
  reaches : world.store.Reaches

/-- What the thread may store for a party: with the intro, if it saw nothing written to the party in
the language; without it, if something was written there, or to thank the party. -/
def MayStore (deployment : Deployment) (number : Nat) (new : NewMessage) (world : World) : Prop :=
  ∃ template lang withIntro amount, new.templateId = some template ∧ new.lang = some lang ∧
    template ≠ .intro ∧ deployment.render lang template withIntro amount = .ok new.content ∧
      (withIntro = true → ∃ seen, world.lastLook number = some seen ∧
        seen.writtenIn new.sessionId new.party lang = []) ∧
      (withIntro = false → template = .resolvedThanks ∨
        world.store.writtenIn new.sessionId new.party lang ≠ [])

/-- What a task must know before it writes to a party, and before an opening ends. -/
def Discloses (deployment : Deployment) (thread : Thread Task) {β : Type} (call : Call β)
    (world : World) : Prop :=
  match call with
  | .insertMessage new => MayStore deployment thread.number new world
  | .activate _ id _ => world.store.Greeted id
  | _ => True

variable {deployment : Deployment} {condition : Condition Call Task Oracle Happening World}
  {thread : Thread Task}

/-- A message is stored for a session that there is. -/
theorem known_of_insertMessageIfNew {store later : Store} {new : NewMessage} {inserted : Bool}
    (hnumbered : ∀ row, store.session new.sessionId = some row →
      new.sessionId < store.sessions.length)
    (h : store.insertMessageIfNew new = .ok (inserted, later))
    (hknown : ∀ message ∈ store.messages, message.sessionId < store.sessions.length) :
    ∀ message ∈ later.messages, message.sessionId < later.sessions.length := by
  obtain ⟨hsession, ⟨-, rfl, -⟩ | ⟨-, rfl⟩⟩ := Store.insertMessageIfNew_eq_ok h
  · exact hknown
  · obtain ⟨row, hrow⟩ := Option.isSome_iff_exists.mp hsession
    intro message hmessage
    rcases List.mem_append.mp hmessage with hold | hnew
    · exact hknown message hold
    · rw [List.mem_singleton.mp hnew]
      exact hnumbered row hrow

/-- A session found is within the sessions. -/
theorem lt_of_session {world : World} (h : world.core.Inv) {id : SessionId} {row : Session}
    (hrow : world.store.session id = some row) : id < world.store.sessions.length := by
  rw [h.session_eq] at hrow
  exact (List.getElem?_eq_some_iff.mp hrow).1

namespace World.Welcomed

variable {world later : World}

/-- A step in which no opening session comes to be reached whose parties were not written to. -/
theorem reaches_of_opening (h : world.Welcomed) (hinv : world.core.Inv) (hinv' : later.core.Inv)
    (hfollows : world.Follows later) (hopened : later.openedBy = world.openedBy)
    (hopening : ∀ (id : SessionId) session found, world.core.sessions[id]? = some session →
      later.core.sessions[id]? = some found → session.state = .opening → found.reached = true →
        later.store.Greeted id) : later.store.Reaches := by
  intro found hfound hreached
  have hat : later.core.sessions[found.sessionId]? = some found := hinv'.getElem?_of_mem hfound
  obtain ⟨session, hsession, hbecomes⟩ := exists_before hinv hinv' hfollows hopened hat
  by_cases hstate : session.state = .opening
  · exact hopening _ session found hsession hat hstate hreached
  · have hmem := List.mem_of_getElem? hsession
    have hbefore := hbecomes.reached (hinv.documented session hmem).handed hstate hreached
    have hgreeted := h.reaches session hmem hbefore
    rw [hinv.numbered _ _ hsession] at hgreeted
    exact hgreeted.mono hfollows.log.messages

/-- A step that leaves the sessions alone. -/
theorem reaches_of_sessions (h : world.Welcomed) (hfollows : world.Follows later)
    (hsessions : later.store.sessions = world.store.sessions) : later.store.Reaches := by
  intro found hfound hreached
  rw [hsessions] at hfound
  exact (h.reaches found hfound hreached).mono hfollows.log.messages

/-- An opening session is opening after the step, or was not reached. -/
theorem reaches_of_unreached (h : world.Welcomed) (hinv : world.core.Inv) (hinv' : later.core.Inv)
    (hfollows : world.Follows later) (hopened : later.openedBy = world.openedBy)
    (hopening : ∀ (id : SessionId) session found, world.core.sessions[id]? = some session →
      later.core.sessions[id]? = some found → session.state = .opening →
        found.reached = false) : later.store.Reaches := by
  refine h.reaches_of_opening hinv hinv' hfollows hopened ?_
  intro id session found hsession hfound hstate hreached
  rw [hopening id session found hsession hfound hstate] at hreached
  cases hreached

/-- A session that is opening is not reached. -/
theorem reached_opening {session : Session} (h : session.state = .opening) :
    session.reached = false := by
  rw [Session.reached, h]

/-- A session that ended is not reached. -/
theorem reached_terminal {session : Session} (h : session.state.isTerminal = true) :
    session.reached = false := by
  unfold Session.reached
  cases hstate : session.state <;> first | rfl | (rw [hstate] at h; cases h)

/-- A revision ends an opening or leaves it. -/
theorem unreached_record (hinv : world.core.Inv) {dispute : DisputeEvent}
    (hpublished : dispute ∈ world.published) (now : Int) (id : SessionId) {session found : Session}
    (hsession : world.core.sessions[id]? = some session)
    (hfound : (world.store.record dispute now).2.sessions[id]? = some found)
    (hstate : session.state = .opening) : found.reached = false := by
  have hstepped : Stepped (fun _ => False) world
      { world with store := (world.store.record dispute now).2, recorded := world.recorded } :=
    .record hinv _ hpublished now List.prefix_rfl
  have hlt : id < world.core.openedBy.length :=
    hinv.openers ▸ (List.getElem?_eq_some_iff.mp hsession).1
  have hleaves := (hstepped.leaves (world.core.openedBy[id]) nofun).core
  rcases hleaves.openings id session found (List.getElem?_eq_getElem hlt) hsession hstate hfound with
    hopening | hterminal
  · exact reached_opening hopening
  · exact reached_terminal hterminal

/-- The transaction of a failed opening leaves no session reached that was opening. -/
theorem unreached_abandon (observers : List Nat) (dispute : DisputeId) (id : Option SessionId)
    (reason : String) (now : Int) (place : SessionId) {session found : Session}
    (hsession : world.core.sessions[place]? = some session)
    (hfound : (world.store.abandonOpening observers dispute id reason now).sessions[place]? =
      some found) (hstate : session.state = .opening) : found.reached = false := by
  rw [(Stepped.abandonOpening_spec world.store observers dispute id reason now).1] at hfound
  cases id with
  | none =>
    rw [show world.store.sessions[place]? = _ from hsession, Option.some.injEq] at hfound
    exact reached_opening (hfound ▸ hstate)
  | some id =>
    simp only [Store.handOff, Store.updateSessions, List.getElem?_map] at hfound
    rw [show world.store.sessions[place]? = _ from hsession, Option.map_some,
      Option.some.injEq] at hfound
    split at hfound
    · rw [← hfound]
      rfl
    · exact reached_opening (hfound ▸ hstate)

/-- The end of an opening that reached both parties. -/
theorem reaches_activate (h : world.Welcomed) (hinv : world.core.Inv) {observers : List Nat}
    {dispute : DisputeId} {id : SessionId} {now : Int} (hgreeted : world.store.Greeted id)
    (hinv' : (world.activate observers dispute id now).core.Inv)
    (hfollows : world.Follows (world.activate observers dispute id now)) :
    (world.activate observers dispute id now).store.Reaches := by
  refine h.reaches_of_opening hinv hinv' hfollows rfl ?_
  intro place session found hsession hfound hstate hreached
  simp only [World.core, World.activate, Store.queueForObservers_sessions, Store.setState,
    Store.updateSessions, List.getElem?_map] at hfound
  rw [show world.store.sessions[place]? = _ from hsession, Option.map_some,
    Option.some.injEq] at hfound
  split at hfound
  · next hpicked =>
    rw [Bool.and_eq_true, beq_iff_eq, hinv.numbered place session hsession] at hpicked
    exact (hpicked.1 ▸ hgreeted).mono hfollows.log.messages
  · rw [← hfound, reached_opening hstate] at hreached
    cases hreached

/-- The step of a call. -/
theorem reaches_performCall (h : world.Welcomed) (hinv : world.core.Inv) {β : Type}
    {call : Call β} (hneeds : Needs thread call world)
    (hdiscloses : Discloses deployment thread call world) (oracle : Oracle) :
    (performCall deployment thread call oracle world).2.store.Reaches := by
  obtain ⟨hinv', hfollows, -⟩ := performCall_stepped deployment thread call oracle hinv hneeds
  by_cases hleaves : call.leavesTrace = true
  · cases call with
    -- A pass through the gate stores nothing.
    | gate rule message =>
      rcases gate_cases deployment thread rule message oracle world with hsame | ⟨-, hpassed⟩
      · rw [hsame]
        exact h.reaches
      · rw [hpassed]
        exact h.reaches
    | sendEvent message =>
      refine h.reaches_of_sessions hfollows ?_
      simp only [performCall, World.sendEvent]
      split <;> rfl
    | openChat id =>
      refine h.reaches_of_sessions hfollows ?_
      exact (performCall_aside deployment thread (by rfl : aside (Call.openChat id)) oracle
        world).sessions
    | record dispute now =>
      revert hinv' hfollows
      simp only [performCall, World.orFail]
      split
      · exact fun _ _ => h.reaches
      · exact fun hinv' hfollows => h.reaches_of_unreached hinv hinv' hfollows rfl
          fun id session found hsession hfound hstate =>
            unreached_record hinv hneeds now id hsession hfound hstate
    | activate dispute id now =>
      revert hinv' hfollows
      simp only [performCall]
      split
      · intro _ _
        rw [stray_store]
        exact h.reaches
      · exact fun hinv' hfollows => h.reaches_activate hinv hdiscloses hinv' hfollows
    | abandon dispute id reason now =>
      revert hinv' hfollows
      simp only [performCall]
      split
      · intro _ _
        cases id with
        | none => exact h.reaches
        | some id =>
          change (world.stray thread.number id).store.Reaches
          rw [stray_store]
          exact h.reaches
      · exact fun hinv' hfollows => h.reaches_of_unreached hinv hinv' hfollows rfl
          fun place session found hsession hfound hstate =>
            unreached_abandon _ _ _ _ _ place hsession hfound hstate
    | insertSession id info order now =>
      -- A session just inserted has reached nobody.
      have inserted : (world.withSession thread.number
          (openingSession world.store world.clock id info order now).row).store.Reaches := by
        intro found hfound hreached
        rcases List.mem_append.mp hfound with hold | hnew
        · exact h.reaches found hold hreached
        · rw [List.mem_singleton.mp hnew, reached_opening rfl] at hreached
          cases hreached
      rcases insertSession_cases deployment thread id info order now oracle world with hsame |
        ⟨-, -, ⟨-, hlater⟩ | ⟨-, hlater⟩⟩
      · rw [hsame]
        exact h.reaches
      · rw [hlater]
        exact inserted
      · rw [hlater, stray_store]
        exact inserted
    | _ => cases hleaves
  · have hquiet := performCall_quiet deployment thread call (by simpa using hleaves) oracle hinv hneeds
    exact h.reaches_of_unreached hinv hinv' hfollows (congrArg Traces.openedBy hquiet.traces)
      fun id session found hsession hfound hstate =>
        reached_opening (hquiet.openings id session found hsession hfound hstate)

/-- No session is lost. -/
theorem sessions_le (hinv : world.core.Inv) (hinv' : later.core.Inv)
    (hfollows : world.Follows later) :
    world.store.sessions.length ≤ later.store.sessions.length := by
  have hle := hfollows.core.openedBy.length_le
  rw [hinv.openers, hinv'.openers] at hle
  exact hle

/-- A step that stores no message. -/
theorem known_of_messages (h : world.Welcomed) (hinv : world.core.Inv) (hinv' : later.core.Inv)
    (hfollows : world.Follows later) (hmessages : later.store.messages = world.store.messages) :
    ∀ message ∈ later.store.messages, message.sessionId < later.store.sessions.length := by
  intro message hmessage
  rw [hmessages] at hmessage
  exact Nat.lt_of_lt_of_le (h.known message hmessage) (sessions_le hinv hinv' hfollows)

/-- The step of a call. -/
theorem known_performCall (h : world.Welcomed) (hinv : world.core.Inv) {β : Type}
    {call : Call β} (hneeds : Needs thread call world) (oracle : Oracle) :
    let later := (performCall deployment thread call oracle world).2
    ∀ message ∈ later.store.messages, message.sessionId < later.store.sessions.length := by
  obtain ⟨hinv', hfollows, -⟩ := performCall_stepped deployment thread call oracle hinv hneeds
  by_cases hstores : call.stores = true
  · cases call with
    | insertMessage new =>
      simp only [performCall, World.orFail]
      split
      · exact h.known
      split
      · exact h.known
      · next inserted store hinsert =>
        exact known_of_insertMessageIfNew (fun row hrow => lt_of_session hinv hrow) hinsert h.known
    | _ => cases hstores
  · exact h.known_of_messages hinv hinv' hfollows
      (performCall_messages (by simpa using hstores) oracle world)

/-- What happens outside the tasks. -/
theorem known_happen (h : world.Welcomed) (hinv : world.core.Inv) {happening : Happening}
    (hhappen : happen deployment happening world = some later) :
    ∀ message ∈ later.store.messages, message.sessionId < later.store.sessions.length := by
  cases happens_of_happen hhappen with
  | @received _ new _ _ _ hlive =>
    obtain ⟨row, hrow, -⟩ := (Option.any_eq_true _ _).mp hlive
    intro message hmessage
    rcases List.mem_append.mp hmessage with hold | hnew
    · exact h.known message hold
    · rw [List.mem_singleton.mp hnew]
      exact lt_of_session hinv hrow
  | _ => exact h.known

/-- The looks, once the messages are more. -/
theorem looked_mono (h : world.Welcomed) (hmessages : world.store.messages <+: later.store.messages)
    (hlooks : later.looks = world.looks) :
    ∀ look ∈ later.looks, look.store.messages <+: later.store.messages := by
  intro look hlook
  rw [hlooks] at hlook
  exact (h.looked look hlook).trans hmessages

/-- The step of a call. -/
theorem looked_performCall (h : world.Welcomed) {β : Type} (call : Call β) (oracle : Oracle) :
    let later := (performCall deployment thread call oracle world).2
    ∀ look ∈ later.looks, look.store.messages <+: later.store.messages := by
  have hmessages := (performCall_grows deployment thread call oracle world).messages
  rcases performCall_looks_cases deployment thread call oracle world with hsame | hadded
  · exact h.looked_mono hmessages hsame
  · intro later look hlook
    rw [hadded] at hlook
    rcases List.mem_append.mp hlook with hold | hnew
    · exact (h.looked look hold).trans hmessages
    · rw [List.mem_singleton.mp hnew]
      exact hmessages

/-- A step that is no call. -/
theorem reaches_quiet (h : world.Welcomed) (hinv : world.core.Inv) (hinv' : later.core.Inv)
    (hfollows : world.Follows later) (hquiet : Quiet world later) : later.store.Reaches :=
  h.reaches_of_unreached hinv hinv' hfollows (congrArg Traces.openedBy hquiet.traces)
    fun id session found hsession hfound hstate =>
      reached_opening (hquiet.openings id session found hsession hfound hstate)

/-- **A call** that heeds the disclosure keeps it. -/
theorem performCall (h : world.Welcomed) (hinv : world.core.Inv) {β : Type} {call : Call β}
    (hneeds : Needs thread call world) (hdiscloses : Discloses deployment thread call world)
    (oracle : Oracle) : (performCall deployment thread call oracle world).2.Welcomed where
  known := h.known_performCall hinv hneeds oracle
  looked := h.looked_performCall call oracle
  reaches := h.reaches_performCall hinv hneeds hdiscloses oracle

/-- The start of a task writes to nobody. -/
theorem launch (h : world.Welcomed) (hinv : world.core.Inv)
    (hlaunch : Serbero.launch thread world = some later) : later.Welcomed := by
  obtain ⟨hinv', hfollows, -⟩ := launch_stepped hinv hlaunch
  have hmessages : later.store.messages = world.store.messages :=
    congrArg Store.messages (launch_traffic hlaunch).1
  refine ⟨h.known_of_messages hinv hinv' hfollows hmessages, ?_, ?_⟩
  · exact h.looked_mono (hmessages ▸ List.prefix_rfl) (launch_looks hlaunch)
  · exact h.reaches_quiet hinv hinv' hfollows (launch_quiet hlaunch)

/-- What happens outside the tasks writes to no party. -/
theorem happen (h : world.Welcomed) (hinv : world.core.Inv) {happening : Happening}
    (hhappen : Serbero.happen deployment happening world = some later) : later.Welcomed := by
  obtain ⟨hinv', hfollows, -⟩ := happen_stepped hinv hhappen
  refine ⟨h.known_happen hinv hhappen, ?_, ?_⟩
  · exact h.looked_mono (happen_grows hhappen).messages (happen_looks hhappen)
  · exact h.reaches_quiet hinv hinv' hfollows (happen_quiet hhappen)

end World.Welcomed

/-- A step that no thread takes leaves the last looks. -/
theorem lastLook_of_looks {world later : World} (h : later.looks = world.looks) (number : Nat) :
    later.lastLook number = world.lastLook number := by
  rw [World.lastLook, h, World.lastLook]

/-- What holds of party messages besides the contract. -/
def disclosureExtension (deployment : Deployment)
    (condition : Condition Call Task Oracle Happening World) :
    Extension (contract deployment condition) where
  inv := World.Welcomed
  pre thread call world := Discloses deployment thread call world
  rely thread before after := after.lastLook thread.number = before.lastLook thread.number
  rely_refl _ _ := rfl
  rely_trans _ _ h h' := h'.trans h
  call_inv hinv h hneeds hdiscloses _ := h.performCall hinv hneeds hdiscloses _
  call_rely _ _ _ _ _ hother := lastLook_performCall _ _ _ hother
  launch_inv hinv h _ hlaunch := h.launch hinv hlaunch
  launch_rely _ _ _ hlaunch := lastLook_of_looks (launch_looks hlaunch) _
  happen_inv hinv h _ hhappen := h.happen hinv hhappen
  happen_rely _ _ _ hhappen := lastLook_of_looks (happen_looks hhappen) _
  restart_inv _ h _ := ⟨h.known, h.looked, h.reaches⟩

/-- Nobody was written to at the start. -/
theorem welcomed_start (clock : Int) : (World.start clock).Welcomed where
  known _ h := absurd h List.not_mem_nil
  looked _ h := absurd h List.not_mem_nil
  reaches _ h := absurd h List.not_mem_nil

/-! ## The two laws -/

/-- The first message to a party in a language begins with the intro of that language. -/
def Store.FirstsIntroduced (catalogs : Catalogs) (store : Store) : Prop :=
  ∀ id party lang message rest, store.writtenIn id party lang = message :: rest →
    catalogs.introduces lang message.content = true

/-- Every later message to a party in a language is the text of a template alone. -/
def Store.LatersPlain (catalogs : Catalogs) (store : Store) : Prop :=
  ∀ id party lang message rest, store.writtenIn id party lang = message :: rest →
    ∀ later ∈ rest, ∃ template amount, template ≠ .intro ∧
      catalogs.render lang template false amount = .ok later.content

/-- No later message to a party in a language begins with its intro. -/
def Store.IntrosOnce (catalogs : Catalogs) (store : Store) : Prop :=
  ∀ id party lang message rest, store.writtenIn id party lang = message :: rest →
    ∀ later ∈ rest, catalogs.introduces lang later.content = false

/-- Where later messages are plain, one intro is all. -/
theorem Store.LatersPlain.introsOnce {catalogs : Catalogs} {store : Store}
    (h : store.LatersPlain catalogs) (hapart : catalogs.IntrosApart) :
    store.IntrosOnce catalogs := by
  intro id party lang message rest hwritten later hlater
  obtain ⟨template, amount, hother, hrender⟩ := h id party lang message rest hwritten later hlater
  exact hapart lang template amount later.content hother hrender

/-- The closing thanks is stored only for a party that was written to in its language before. -/
def acquainted : Condition Call Task Oracle Happening World where
  call _ request _ world :=
    match request with
    | .insertMessage new => new.templateId != some .resolvedThanks ||
        new.lang.any fun lang => !(world.store.writtenIn new.sessionId new.party lang).isEmpty
    | _ => true
  launch _ _ _ := true
  happen _ _ := true
  restart _ _ := true

/-- The messages stored for a party, in any language. -/
def Store.writtenTo (store : Store) (id : SessionId) (party : Party) : List Message :=
  store.messages.filter fun message => message.sessionId == id && message.isTo party

/-- No message is stored for a party between the last look of a task that sends it one and the
storing of that message. -/
def inTurns : Condition Call Task Oracle Happening World where
  call thread request _ world :=
    match request with
    | .insertMessage new => (world.lastLook thread.number).all fun seen =>
        seen.writtenTo new.sessionId new.party == world.store.writtenTo new.sessionId new.party
    | _ => true
  launch _ _ _ := true
  happen _ _ := true
  restart _ _ := true

/-- What one more message adds to a list. -/
theorem Store.writtenIn_append {store later : Store} {row : Message}
    (h : later.messages = store.messages ++ [row]) (id : SessionId) (party : Party)
    (lang : String) :
    later.writtenIn id party lang = store.writtenIn id party lang ∨
      (row.sessionId = id ∧ row.isTo party = true ∧ row.lang = some lang ∧
        later.writtenIn id party lang = store.writtenIn id party lang ++ [row]) := by
  rw [writtenIn, h, List.filter_append, List.filter_singleton, ← writtenIn]
  by_cases hrow : (row.sessionId == id && row.isTo party && row.lang == some lang) = true
  · rw [hrow, cond_true]
    rw [Bool.and_eq_true, Bool.and_eq_true, beq_iff_eq, beq_iff_eq] at hrow
    exact .inr ⟨hrow.1.1, hrow.1.2, hrow.2, rfl⟩
  · rw [Bool.not_eq_true] at hrow
    rw [hrow, cond_false, List.append_nil]
    exact .inl rfl

/-- The messages in a language are among those to the party. -/
theorem Store.writtenIn_eq (store : Store) (id : SessionId) (party : Party) (lang : String) :
    store.writtenIn id party lang =
      (store.writtenTo id party).filter fun message => message.lang == some lang := by
  rw [writtenIn, writtenTo, List.filter_filter]
  congr 1
  funext message
  rw [Bool.and_comm]

/-- What one move stores: nothing, a message of a party, or one to a party that may be stored. -/
theorem stored_of_moves {world later : World}
    (h : (disclosureExtension deployment condition).contract.Moves world later) :
    later.store.messages = world.store.messages ∨
      (∃ row : Message, row.direction = .inbound ∧
        later.store.messages = world.store.messages ++ [row]) ∨
      ∃ (thread : Thread Task) (new : NewMessage) (oracle : Oracle),
        MayStore deployment thread.number new world ∧
          condition.call thread (.insertMessage new) oracle world = true ∧
            later.store.messages =
              world.store.messages ++ [new.row (world.store.messages.length + 1)] := by
  cases h with
  | @call β thread request oracle _ hinv hpre hcond _ =>
    by_cases hstores : request.stores = true
    · cases request with
      | insertMessage new =>
        obtain ⟨messages, hlater, hmessages⟩ :=
          performCall_insertMessage deployment thread new oracle world
        have hstored : (performCall deployment thread (.insertMessage new) oracle
            world).2.store.messages = messages := by rw [hlater]
        rcases hmessages with hsame | hadded
        · exact .inl (hstored.trans hsame)
        · exact .inr (.inr ⟨thread, new, oracle, hpre.2, hcond, hstored.trans hadded⟩)
      | _ => cases hstores
    · exact .inl (performCall_messages (by simpa using hstores) oracle world)
  | launch _ _ hlaunch => exact .inl (congrArg Store.messages (launch_traffic hlaunch).1)
  | happen _ _ hhappen =>
    obtain ⟨-, hsame | ⟨message, hinbound, -, hadded⟩⟩ := happen_traffic hhappen
    · exact .inl (congrArg Traffic.messages hsame)
    · exact .inr (.inl ⟨message, hinbound, congrArg Traffic.messages hadded⟩)
  | restart _ _ => exact .inl rfl

/-- A party's own message is written in no language. -/
theorem Store.writtenIn_inbound {store later : Store} {row : Message}
    (hinbound : row.direction = .inbound) (h : later.messages = store.messages ++ [row])
    (id : SessionId) (party : Party) (lang : String) :
    later.writtenIn id party lang = store.writtenIn id party lang := by
  rcases writtenIn_append h id party lang with hsame | ⟨-, hto, -, -⟩
  · exact hsame
  · rw [Message.isTo, hinbound] at hto
    cases hto

/-- The same messages are the same in a language. -/
theorem Store.writtenIn_congr {store later : Store} (h : later.messages = store.messages)
    (id : SessionId) (party : Party) (lang : String) :
    later.writtenIn id party lang = store.writtenIn id party lang := by
  rw [writtenIn, h, writtenIn]

section laws

variable {catalogs : Catalogs} {world later : World}

/-- What may be stored for a party in a language. -/
theorem MayStore.row {number : Nat} {new : NewMessage} {id : Int} {party : Party} {lang : String}
    (h : MayStore deployment number new world) (hto : (new.row id).isTo party = true)
    (hlang : (new.row id).lang = some lang) :
    new.party = party ∧ ∃ template withIntro amount, new.templateId = some template ∧
      template ≠ .intro ∧ deployment.render lang template withIntro amount = .ok new.content ∧
        (withIntro = true → ∃ seen, world.lastLook number = some seen ∧
          seen.writtenIn new.sessionId new.party lang = []) ∧
        (withIntro = false → template = .resolvedThanks ∨
          world.store.writtenIn new.sessionId new.party lang ≠ []) := by
  obtain ⟨template, written, withIntro, amount, htemplate, hwritten, hrest⟩ := h
  have hsame : written = lang := by
    change new.lang = some lang at hlang
    rw [hwritten, Option.some.injEq] at hlang
    exact hlang
  subst hsame
  refine ⟨?_, template, withIntro, amount, htemplate, hrest⟩
  change (_ && new.party == party) = true at hto
  simpa using (Bool.and_eq_true_iff.mp hto).2

/-- One move keeps the first law, if the parties thanked are acquainted. -/
theorem firstsIntroduced_of_moves (h : world.store.FirstsIntroduced catalogs)
    (hmove : (disclosureExtension (deployment.speaking catalogs) acquainted).contract.Moves
      world later) : later.store.FirstsIntroduced catalogs := by
  intro id party lang message rest hwritten
  rcases stored_of_moves hmove with hsame | ⟨row, hinbound, hadded⟩ |
    ⟨thread, new, oracle, hstores, hcond, hadded⟩
  · rw [Store.writtenIn_congr hsame] at hwritten
    exact h id party lang message rest hwritten
  · rw [Store.writtenIn_inbound hinbound hadded] at hwritten
    exact h id party lang message rest hwritten
  -- The row may be the first to this party in this language.
  · rcases Store.writtenIn_append hadded id party lang with hsame | ⟨rfl, hto, hlang, hnew⟩
    · rw [hsame] at hwritten
      exact h id party lang message rest hwritten
    · rw [hnew] at hwritten
      cases hearlier : world.store.writtenIn new.sessionId party lang with
      | cons first others =>
        change world.store.writtenIn new.sessionId party lang ++ _ = _ at hwritten
        rw [hearlier, List.cons_append, List.cons.injEq] at hwritten
        rw [← hwritten.1]
        exact h _ party lang first others hearlier
      | nil =>
        change world.store.writtenIn new.sessionId party lang ++ _ = _ at hwritten
        rw [hearlier, List.nil_append, List.cons.injEq] at hwritten
        rw [← hwritten.1]
        obtain ⟨rfl, template, withIntro, amount, htemplate, -, hrender, -, hplain⟩ :=
          hstores.row hto hlang
        -- With an intro it opens with the catalog's own.
        cases withIntro with
        | true => exact Catalogs.introduces_of_render hrender
        | false =>
          -- Without one it is either no thanks, or something was written before.
          rcases hplain rfl with rfl | hbefore
          · have hlang : new.lang = some lang := hlang
            simp [acquainted, htemplate, hlang, hearlier] at hcond
          · exact absurd hearlier hbefore

/-- One move keeps the second law, if no two sends to a party overlap. -/
theorem latersPlain_of_moves (h : world.store.LatersPlain catalogs)
    (hmove : (disclosureExtension (deployment.speaking catalogs) inTurns).contract.Moves
      world later) : later.store.LatersPlain catalogs := by
  intro id party lang message rest hwritten
  rcases stored_of_moves hmove with hsame | ⟨row, hinbound, hadded⟩ |
    ⟨thread, new, oracle, hstores, hcond, hadded⟩
  · rw [Store.writtenIn_congr hsame] at hwritten
    exact h id party lang message rest hwritten
  · rw [Store.writtenIn_inbound hinbound hadded] at hwritten
    exact h id party lang message rest hwritten
  · rcases Store.writtenIn_append hadded id party lang with hsame | ⟨rfl, hto, hlang, hnew⟩
    · rw [hsame] at hwritten
      exact h id party lang message rest hwritten
    · rw [hnew] at hwritten
      change world.store.writtenIn new.sessionId party lang ++ _ = _ at hwritten
      cases hearlier : world.store.writtenIn new.sessionId party lang with
      | nil =>
        rw [hearlier, List.nil_append, List.cons.injEq] at hwritten
        rw [← hwritten.2]
        exact fun _ hmem => absurd hmem List.not_mem_nil
      | cons first others =>
        rw [hearlier, List.cons_append, List.cons.injEq] at hwritten
        rw [← hwritten.2]
        intro found hfound
        rcases List.mem_append.mp hfound with hold | hlast
        · exact h _ party lang first others hearlier found hold
        rw [List.mem_singleton.mp hlast]
        obtain ⟨rfl, template, withIntro, amount, -, hother, hrender, hfresh, -⟩ :=
          hstores.row hto hlang
        cases withIntro with
        | false => exact ⟨template, amount, hother, hrender⟩
        | true =>
          -- What the thread saw is what is stored, so nothing was written in the language.
          obtain ⟨seen, hseen, hnone⟩ := hfresh rfl
          have hsame : seen.writtenTo new.sessionId new.party =
              world.store.writtenTo new.sessionId new.party := by
            simpa [inTurns, hseen] using hcond
          rw [Store.writtenIn_eq, hsame, ← Store.writtenIn_eq, hearlier] at hnone
          cases hnone

end laws

end Serbero
