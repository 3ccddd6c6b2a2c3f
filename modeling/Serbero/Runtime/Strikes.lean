import Serbero.Runtime.Replay
import Serbero.Runtime.Seats
import Serbero.Runtime.Transcripts

/-! # Flood strikes and the messages behind them

Beside the daemon a log notes with each flood strike the window of messages it was counted over. A
turn counts from the newest message of any strike or turn evaluation of its session on, and is the
only one of its session that records either. -/

namespace Serbero

open Pool

/-! ## Strikes -/

/-- The session, the party and the newest message of a flood strike. -/
def strikeIn (sessionId : Option SessionId) (kind : EventKind) :
    Option (SessionId × Party × Int) :=
  match sessionId, kind with
  | some id, .floodStrike party _ last => some (id, party, last)
  | _, _ => none

/-- The event as a strike. -/
def Event.strike (event : Event) : Option (SessionId × Party × Int) :=
  strikeIn event.sessionId event.kind

/-- A turn reads the strikes of its session. -/
theorem strikeOf_eq (id : SessionId) (event : Event) :
    strikeOf id event =
      event.strike.bind fun strike => if strike.1 = id then some strike.2 else none := by
  unfold strikeOf Event.strike strikeIn
  cases event.sessionId with
  | none => rfl
  | some found =>
    by_cases hid : found = id
    · subst hid
      cases event.kind <;> simp
    · have hne : some found ≠ some id := fun heq => hid (Option.some.inj heq)
      rw [if_neg hne]
      cases event.kind <;> simp [hid]

/-- Only such an event is a strike. -/
theorem strikeIn_eq_none {sessionId : Option SessionId} {kind : EventKind}
    (h : kind.isFloodStrike = false) : strikeIn sessionId kind = none := by
  unfold strikeIn
  split
  · cases h
  · rfl

namespace Store

variable (deployment : Deployment) (store : Store)

/-- The recorded strikes, oldest first. -/
def strikes : List (SessionId × Party × Int) := store.events.filterMap Event.strike

/-- The newest message that a turn evaluation of the session was about. -/
def judgedUpTo (id : SessionId) : Int :=
  (((store.listEvaluations id).filter fun evaluation => evaluation.ofTurn deployment).map
    Evaluation.lastMessageId).max?.getD 0

/-- Where a turn of the session counts from. -/
def watermark (dispute : DisputeId) (id : SessionId) : Int :=
  countedUpTo deployment ((store.listEvents dispute).filterMap (strikeOf id))
    (store.listEvaluations id)

variable {deployment store}

/-- What a turn evaluation was about is below the watermark. -/
theorem judgedUpTo_le_watermark (dispute : DisputeId) (id : SessionId) :
    store.judgedUpTo deployment id ≤ store.watermark deployment dispute id :=
  le_max_right _ _

/-- So is what a strike was about. -/
theorem le_watermark {dispute : DisputeId} {id : SessionId} {strike : Party × Int}
    (h : strike ∈ (store.listEvents dispute).filterMap (strikeOf id)) :
    strike.2 ≤ store.watermark deployment dispute id := by
  refine le_trans ?_ (le_max_left _ _)
  have hmem := List.mem_map_of_mem (f := Prod.snd) h
  cases hmax : (((store.listEvents dispute).filterMap (strikeOf id)).map Prod.snd).max? with
  | none =>
    rw [List.max?_eq_none_iff] at hmax
    rw [hmax] at hmem
    exact absurd hmem List.not_mem_nil
  | some newest => exact (List.max?_eq_some_iff.mp hmax).2 _ hmem

end Store

/-! ## Windows -/

/-- The messages behind a strike: a party's after one message of the session, up to another. -/
structure Window where
  sessionId : SessionId
  party : Party
  /-- What the turn counted from. -/
  after : Int
  last : Int
  /-- What turn evaluations had covered when the strike was recorded. -/
  judged : Int
  deriving DecidableEq, Repr

namespace Window

variable (window : Window)

/-- The strike the window is of. -/
def strike : SessionId × Party × Int := (window.sessionId, window.party, window.last)

/-- The window is of the session's party. -/
def isOf (id : SessionId) (party : Party) : Bool :=
  window.sessionId == id && window.party == party

/-- The message is in the window. -/
def covers (message : Message) : Bool :=
  message.sessionId == window.sessionId && message.isFrom window.party &&
    decide (window.after < message.id) && decide (message.id ≤ window.last)

/-- How many messages are in the window. -/
def size (messages : List Message) : Nat := messages.countP window.covers

variable {window}

/-- A window has no fewer messages when more arrive. -/
theorem size_mono {messages later : List Message} (h : messages <+: later) :
    window.size messages ≤ window.size later :=
  h.sublist.countP_le

end Window

/-- Some party of the session has the strikes of a flood. -/
def floods (windows : List Window) (id : SessionId) : Bool :=
  Party.both.any fun party => decide (floodStrikes ≤ windows.countP fun window =>
    window.isOf id party)

section floods

variable {windows more : List Window} {id : SessionId}

/-- A session is flooded when one party struck often enough. -/
theorem floods_iff : floods windows id = true ↔
    ∃ party, floodStrikes ≤ windows.countP fun window => window.isOf id party := by
  rw [floods, List.any_eq_true]
  constructor
  · rintro ⟨party, -, hcount⟩
    exact ⟨party, of_decide_eq_true hcount⟩
  · rintro ⟨party, hcount⟩
    exact ⟨party, by cases party <;> decide, decide_eq_true hcount⟩

/-- A flood stays one. -/
theorem floods_append (h : floods windows id = true) : floods (windows ++ more) id = true := by
  rw [floods_iff] at h ⊢
  obtain ⟨party, hcount⟩ := h
  refine ⟨party, ?_⟩
  rw [List.countP_append]
  omega

/-- A window of another session floods nothing. -/
theorem floods_concat_of_ne {window : Window} (hother : window.sessionId ≠ id) :
    floods (windows ++ [window]) id = floods windows id := by
  unfold floods
  congr 1
  funext party
  have hcount : (windows ++ [window]).countP (fun window => window.isOf id party) =
      windows.countP fun window => window.isOf id party := by
    have hne : (window.sessionId == id) = false := by simpa using hother
    simp [List.countP_append, Window.isOf, hne]
  rw [hcount]

/-- Whether a session is flooded depends on its windows only. -/
theorem floods_filter (windows : List Window) (id : SessionId) :
    floods (windows.filter fun window => window.sessionId == id) id = floods windows id := by
  unfold floods
  congr 1
  funext party
  rw [List.countP_filter]
  congr 2
  refine List.countP_congr fun window _ => ?_
  simp only [Window.isOf, Bool.and_eq_true]
  exact ⟨fun h => h.1, fun h => ⟨h, h.1⟩⟩

/-- One more window of a party. -/
theorem floods_concat {window : Window} (hid : window.sessionId = id) :
    floods (windows ++ [window]) id = (floods windows id || decide (floodStrikes ≤
      (windows.countP fun earlier => earlier.isOf id window.party) + 1)) := by
  rw [Bool.eq_iff_iff, Bool.or_eq_true, decide_eq_true_eq, floods_iff, floods_iff]
  have hcount : ∀ party, ((windows ++ [window]).countP fun earlier => earlier.isOf id party) =
      (windows.countP fun earlier => earlier.isOf id party) +
        if window.party = party then 1 else 0 := by
    intro party
    simp [List.countP_append, List.countP_cons, Window.isOf, hid]
  constructor
  · rintro ⟨party, hparty⟩
    rw [hcount] at hparty
    split at hparty
    · next hsame =>
      rw [hsame]
      exact Or.inr hparty
    · exact Or.inl ⟨party, hparty⟩
  · rintro (⟨party, hparty⟩ | hparty)
    · refine ⟨party, ?_⟩
      rw [hcount]
      omega
    · refine ⟨window.party, ?_⟩
      rw [hcount, if_pos rfl]
      exact hparty

end floods

/-! ## The log -/

/-- The session is mediated. -/
def World.mediates (world : World) (id : SessionId) : Bool :=
  (world.store.session id).any fun row => row.state.isMediating

/-- The window of a strike that the thread records now. -/
def World.window (world : World) (deployment : Deployment) (thread : Nat) (dispute : DisputeId)
    (strike : SessionId × Party × Int) : Window :=
  { sessionId := strike.1
    party := strike.2.1
    after := ((world.lastLook thread).map fun seen =>
      seen.watermark deployment dispute strike.1).getD 0
    last := strike.2.2
    judged := world.store.judgedUpTo deployment strike.1 }

/-- What is noted of a call. -/
def noteStrike (deployment : Deployment) {β : Type} (thread : Nat) (call : Call β)
    (oracle : Oracle) (world : World) (windows : List Window) : List Window :=
  if oracle.fails.isSome then windows
  else
    match call with
    | .append new =>
      ((strikeIn new.sessionId new.kind).map fun strike =>
        windows ++ [world.window deployment thread new.disputeId strike]).getD windows
    | _ => windows

/-- The log beside the daemon. -/
def strikeLog (deployment : Deployment) : Companion (machine deployment) Empty (List Window) where
  call thread call oracle world windows :=
    noteStrike deployment thread.number call oracle world windows
  launch _ _ _ windows := windows
  happen _ _ windows := windows
  restart _ _ windows := windows
  deed deed _ _ := nomatch deed

/-! ## Turns that complete -/

/-- A session is flooded, and was not handed off yet. -/
def owes (world : World × List Window) (id : SessionId) : Bool :=
  floods world.2 id && world.1.mediates id

/-- The call hands the session off. -/
def Call.handsOff {β : Type} (call : Call β) (id : SessionId) : Bool :=
  match call with
  | .handOff session _ _ => session.sessionId == id
  | _ => false

/-- Turns complete: while the turn of a session runs, nothing but its own hand-off ends the
mediation of the session, and once the session is flooded nothing that the turn does fails and
Serbero is not restarted. -/
def completed (deployment : Deployment) :
    Condition Call Task Oracle (Happening ⊕ Empty) (World × List Window) where
  call thread call oracle world :=
    world.1.running.all fun entry =>
      (entry.1 == thread.number && call.handsOff entry.2 ||
        (performCall deployment thread call oracle world.1).2.mediates entry.2 ==
          world.1.mediates entry.2) &&
      !(entry.1 == thread.number && owes world entry.2 && oracle.fails.isSome)
  launch _ _ _ := true
  happen _ _ := true
  restart _ world := world.1.running.all fun entry => !owes world entry.2

/-- The daemon's contract, beside the log. -/
def strikeContract (deployment : Deployment) :
    Contract (strikeLog deployment).beside (mannedBoth (completed deployment)) :=
  (contract deployment Condition.always).beside (strikeLog deployment)
    (Condition.within_always (mannedBoth (completed deployment)))

variable {deployment : Deployment} {thread : Thread Task}

/-! ## What the log keeps -/

/-- What is known before a strike is recorded: it is the strike of a turn that runs, and its window
lies after all that was counted. -/
structure MayStrike (deployment : Deployment) (number : Nat) (new : NewEvent) (world : World)
    (windows : List Window) (strike : SessionId × Party × Int) : Prop where
  kind : strikeIn new.sessionId new.kind = some strike
  runs : world.Runs number strike.1
  mediates : world.mediates strike.1 = true
  placed : ∃ row, world.store.session strike.1 = some row ∧ row.disputeId = new.disputeId
  apart : ∀ window ∈ windows, window.sessionId = strike.1 → window.party = strike.2.1 →
    window.last ≤ (world.window deployment number new.disputeId strike).after
  unjudged : world.store.judgedUpTo deployment strike.1 ≤
    (world.window deployment number new.disputeId strike).after
  large : deployment.settings.maxMessagesPerTurn <
    (world.window deployment number new.disputeId strike).size world.store.messages

/-- What a call needs beside the contract. A flood is handed off only when there is one, and a turn
ends, or hands its session off for another reason, only when there is none to hand off. -/
def StrikeNeeds (deployment : Deployment) (thread : Thread Task) {β : Type} (call : Call β)
    (world : World × List Window) : Prop :=
  match call with
  | .append new => new.kind.isFloodStrike = true →
      ∃ strike, MayStrike deployment thread.number new world.1 world.2 strike
  | .insertEvaluation new => new.questionSetVersion ≠ deployment.briefQuestions →
      world.1.Runs thread.number new.sessionId
  | .handOff session reason _ =>
    (reason = .flood → floods world.2 session.sessionId = true) ∧
      (reason ≠ .flood → thread.role = .turn session.sessionId →
        owes world session.sessionId = false)
  | .joinTurn _ => ∀ id, thread.role = .turn id → owes world id = false
  | _ => True

/-- What holds of the strikes and their windows. -/
structure Struck (deployment : Deployment) (world : World) (windows : List Window) : Prop where
  seated : world.Seated
  recorded : windows.map Window.strike = world.store.strikes
  /-- A strike is an event of its session's dispute. -/
  placed : ∀ event ∈ world.store.events, ∀ strike, event.strike = some strike →
    ∃ row, world.core.sessions[strike.1]? = some row ∧ row.disputeId = event.disputeId
  apart : windows.Pairwise fun earlier later =>
    earlier.sessionId = later.sessionId → earlier.party = later.party → earlier.last ≤ later.after
  unjudged : ∀ window ∈ windows, window.judged ≤ window.after
  large : ∀ window ∈ windows,
    deployment.settings.maxMessagesPerTurn < window.size world.store.messages
  claimed : ∀ (id : SessionId) row, world.core.sessions[id]? = some row →
    row.handoffReason = some .flood → floods windows id = true
  /-- A flooded session was handed off, or its turn still runs. -/
  owed : ∀ id, floods windows id = true → ∃ row, world.core.sessions[id]? = some row ∧
    (row.handoffReason = some .flood ∨
      row.state.isMediating = true ∧ ∃ number, world.Runs number id)

/-- The row of a mediated session. -/
theorem mediates_iff {world : World} (h : world.core.Inv) {id : SessionId} :
    world.mediates id = true ↔
      ∃ row, world.core.sessions[id]? = some row ∧ row.state.isMediating = true := by
  rw [World.mediates, h.session_eq]
  cases world.core.sessions[id]? <;> simp

/-- A mediated session has no reason yet. -/
theorem reason_of_mediating {world : World} (h : world.core.Inv) {id : SessionId} {row : Session}
    (hrow : world.core.sessions[id]? = some row) (hmediating : row.state.isMediating = true) :
    row.handoffReason = none :=
  (h.documented row (List.mem_of_getElem? hrow)).early
    ((SessionState.isMediating_iff_stage _).mp hmediating)

/-- A session that is handed off for a flood was before, or was claimed for it meanwhile. -/
theorem flood_of_claims {world later : World} (h : world.core.Inv) (h' : later.core.Inv) {id : SessionId} {found : Session}
    (hfound : later.core.sessions[id]? = some found) (hreason : found.handoffReason = some .flood) :
    (∃ row, world.core.sessions[id]? = some row ∧ row.handoffReason = some .flood) ∨
      ∃ claim ∈ later.claims, claim ∉ world.claims ∧ claim.1 = id ∧
        ∃ last, claim.2 = .handOff .flood last := by
  have hone := (h'.documented found (List.mem_of_getElem? hfound)).claimed (by simp [hreason])
  rw [h'.numbered id found hfound] at hone
  obtain ⟨claim, hclaim, hid⟩ := List.countP_pos_iff.mp (hone ▸ Nat.one_pos)
  have hid : claim.1 = id := by simpa using hid
  have same : ∀ row ∈ later.core.sessions, row.sessionId = claim.1 → row = found :=
    fun row hrow hsame => h'.row_eq hfound hrow (hsame.trans hid)
  have hlogged := h'.logged claim hclaim
  unfold Logged at hlogged
  split at hlogged
  · next reason last hclaimer =>
    -- The reason is the claim's.
    obtain ⟨-, -, -, -, row, hrow, hsame, hrowReason⟩ := hlogged
    rw [same row hrow hsame, hreason, Option.some.injEq] at hrowReason
    subst hrowReason
    by_cases hbefore : claim ∈ world.claims
    · have hearlier := h.logged claim hbefore
      unfold Logged at hearlier
      rw [hclaimer] at hearlier
      obtain ⟨-, -, -, -, before, hmem, hsame, hflood⟩ := hearlier
      have hat := h.getElem?_of_mem hmem
      rw [hsame, hid] at hat
      exact Or.inl ⟨before, hat, hflood⟩
    · exact Or.inr ⟨claim, hclaim, hbefore, hid, last, hclaimer⟩
  · obtain ⟨-, -, row, hrow, hsame, hrowReason⟩ := hlogged
    rw [same row hrow hsame, hreason] at hrowReason
    cases hrowReason

/-- The call hands the session off for a flood. -/
def Call.claimsFlood {β : Type} (call : Call β) (id : SessionId) : Bool :=
  match call with
  | .handOff session reason _ => session.sessionId == id && reason == .flood
  | _ => false

/-- A flood is claimed by such a call only. -/
theorem performCall_flood {β : Type} {call : Call β} {oracle : Oracle} {world : World}
    {claim : SessionId × Claimer} {last : Int}
    (hclaim : claim ∈ (performCall deployment thread call oracle world).2.claims)
    (hnew : claim ∉ world.claims) (hflood : claim.2 = .handOff .flood last) :
    call.claimsFlood claim.1 = true := by
  rcases performCall_claims_cases deployment thread call oracle world with hsame | ⟨added, hadded, hlogs⟩
  · rw [hsame] at hclaim
    exact absurd hclaim hnew
  rw [hadded] at hclaim
  rcases List.mem_append.mp hclaim with hold | hlast
  · exact absurd hold hnew
  obtain rfl := List.mem_singleton.mp hlast
  cases call with
  | handOff session reason now =>
    obtain ⟨last, rfl⟩ := hlogs
    cases hflood
    simp [Call.claimsFlood]
  | abandon dispute id reason now =>
    -- An opening that is given up is claimed for another reason.
    cases id with
    | none => cases hlogs
    | some id =>
      cases hlogs
      cases hflood
  | _ => cases hlogs

/-- What a hand-off makes of the rows. -/
theorem session_handOff (store : Store) (id : SessionId) (reason : HandoffReason) (now : Int)
    (found : SessionId) :
    (store.handOff id reason now).2.session found = (store.session found).map fun row =>
      if (row.sessionId == id && row.state.isMediating) = true then
        { row with state := .handedOff, handoffReason := some reason, updatedAt := now }
      else row := by
  simp only [Store.session, Store.handOff, Store.updateSessions, List.find?_map]
  congr 2
  funext row
  simp only [Function.comp_apply]
  split <;> rfl

/-- The rows after a hand-off: as they were, or claimed. -/
theorem performCall_handOff_session (session : Session) (reason : HandoffReason) (now : Int)
    (oracle : Oracle) (world : World) (found : SessionId) :
    ((performCall deployment thread (.handOff session reason now) oracle world).2.store.session
        found = world.store.session found ∧
      (oracle.fails = none → (world.store.handOff session.sessionId reason now).1 = false)) ∨
    (performCall deployment thread (.handOff session reason now) oracle world).2.store.session
        found = (world.store.handOff session.sessionId reason now).2.session found := by
  simp only [performCall, World.orFail]
  cases hfails : oracle.fails with
  | some failure => exact Or.inl ⟨rfl, fun heq => by cases heq⟩
  | none =>
    by_cases hclaimed : (world.store.handOff session.sessionId reason now).1 = true
    · right
      simp only [Store.claimHandOff, hclaimed, if_true]
      simp only [Store.session, Store.queueForObservers_sessions]
      rfl
    · left
      simp only [Store.claimHandOff, hclaimed, Bool.false_eq_true, if_false]
      exact ⟨trivial, fun _ => trivial⟩

/-- A hand-off begins no mediation. -/
theorem mediates_of_handOff {session : Session} {reason : HandoffReason} {now : Int}
    {oracle : Oracle} {world : World} {id : SessionId}
    (h : (performCall deployment thread (.handOff session reason now) oracle world).2.mediates id =
      true) : world.mediates id = true := by
  unfold World.mediates at h ⊢
  rcases performCall_handOff_session session reason now oracle world id with
    ⟨hsame, -⟩ | hclaimed
  · rwa [hsame] at h
  · rw [hclaimed, session_handOff] at h
    cases hrow : world.store.session id with
    | none =>
      rw [hrow] at h
      cases h
    | some row =>
      rw [hrow, Option.map_some, Option.any_some] at h
      split at h
      · cases h
      · exact h

/-- A hand-off that does not fail leaves no mediation. -/
theorem mediates_handOff (session : Session) (reason : HandoffReason) (now : Int)
    {oracle : Oracle} (hfails : oracle.fails = none) (world : World) :
    (performCall deployment thread (.handOff session reason now) oracle world).2.mediates
      session.sessionId = false := by
  unfold World.mediates
  rcases performCall_handOff_session session reason now oracle world session.sessionId with
    ⟨hsame, hunclaimed⟩ | hclaimed
  · -- Nothing was claimed because nothing was mediated.
    rw [hsame]
    cases hrow : world.store.session session.sessionId with
    | none => rfl
    | some row =>
      have hnone := List.any_eq_false.mp (hunclaimed hfails) row (List.mem_of_find?_eq_some hrow)
      have hid : (row.sessionId == session.sessionId) = true :=
        beq_iff_eq.mpr (Store.sessionId_of_session hrow)
      simpa [hid] using hnone
  · rw [hclaimed, session_handOff]
    cases hrow : world.store.session session.sessionId with
    | none => rfl
    | some row =>
      have hid : (row.sessionId == session.sessionId) = true :=
        beq_iff_eq.mpr (Store.sessionId_of_session hrow)
      rw [Option.map_some, Option.any_some, hid, Bool.true_and]
      by_cases hmediating : row.state.isMediating = true
      · rw [if_pos hmediating]
        rfl
      · rw [if_neg hmediating]
        simpa using hmediating

/-- A mediated session that is handed off has the reason. -/
theorem reason_handOff {session row : Session} (reason : HandoffReason) (now : Int)
    {oracle : Oracle} (hfails : oracle.fails = none) {world : World}
    (hrow : world.store.session session.sessionId = some row)
    (hmediating : row.state.isMediating = true) :
    ∃ found, (performCall deployment thread (.handOff session reason now) oracle
      world).2.store.session session.sessionId = some found ∧
        found.handoffReason = some reason := by
  have hid : (row.sessionId == session.sessionId) = true :=
    beq_iff_eq.mpr (Store.sessionId_of_session hrow)
  have hpicked : (row.sessionId == session.sessionId && row.state.isMediating) = true := by
    rw [hid, hmediating]
    rfl
  rcases performCall_handOff_session session reason now oracle world session.sessionId with
    ⟨-, hunclaimed⟩ | hclaimed
  · have hnone := List.any_eq_false.mp (hunclaimed hfails) row (List.mem_of_find?_eq_some hrow)
    exact absurd hpicked hnone
  · rw [hclaimed, session_handOff, hrow, Option.map_some, if_pos hpicked]
    exact ⟨_, rfl, rfl⟩

/-! ## Every call keeps it -/

section steps

variable {world later : World} {windows : List Window}

/-- What the condition says of a running turn's session. -/
theorem completed_call {β : Type} {call : Call β} {oracle : Oracle} {world : World × List Window}
    (h : (completed deployment).call thread call oracle world = true) {number : Nat}
    {id : SessionId} (hruns : world.1.Runs number id) :
    (number = thread.number ∧ call.handsOff id = true ∨
      (performCall deployment thread call oracle world.1).2.mediates id = world.1.mediates id) ∧
      (number = thread.number → owes world id = true → oracle.fails = none) := by
  have hentry := List.all_eq_true.mp h (number, id) hruns
  simp only [Bool.and_eq_true, Bool.or_eq_true, beq_iff_eq, Bool.not_eq_true',
    Bool.and_eq_false_iff] at hentry
  refine ⟨hentry.1, fun hnumber howes => ?_⟩
  rcases hentry.2 with (hother | hnot) | hnone
  · simp [hnumber] at hother
  · rw [howes] at hnot
    cases hnot
  · simpa using hnone

/-- The call records a strike. -/
def Call.recordsStrike {β : Type} : Call β → Bool
  | .append new => new.kind.isFloodStrike
  | _ => false

/-- No other call is noted. -/
theorem noteStrike_of_not {β : Type} {call : Call β} (h : call.recordsStrike = false)
    (number : Nat) (oracle : Oracle) (world : World) (windows : List Window) :
    noteStrike deployment number call oracle world windows = windows := by
  unfold noteStrike
  split
  · rfl
  · split
    · next new =>
      rw [strikeIn_eq_none h]
      rfl
    · rfl

/-- No other call records one. -/
theorem performCall_strikes {β : Type} {call : Call β} (h : call.recordsStrike = false)
    (oracle : Oracle) (world : World) :
    (performCall deployment thread call oracle world).2.store.events.filter
        (fun event => event.strike.isSome) =
      world.store.events.filter fun event => event.strike.isSome := by
  refine (performCall_logs deployment thread call oracle world).filter_eq fun event hkind => ?_
  have hnot : event.kind.isFloodStrike = false := by
    cases call with
    | append new =>
      have hsame : event.kind = new.kind := by simpa [Call.logs] using hkind
      rw [hsame]
      exact h
    | _ => revert hkind; cases event.kind <;> simp [Call.logs, EventKind.isFloodStrike, EventKind.isQueued]
  rw [Event.strike, strikeIn_eq_none hnot]
  rfl

/-- Picked events are all there are to the strikes. -/
theorem strikes_of_filter {store store' : Store}
    (h : store'.events.filter (fun event => event.strike.isSome) =
      store.events.filter fun event => event.strike.isSome) : store'.strikes = store.strikes := by
  have hpicked : ∀ events : List Event, events.filterMap Event.strike =
      (events.filter fun event => event.strike.isSome).filterMap Event.strike := by
    intro events
    induction events with
    | nil => rfl
    | cons event rest ih =>
      cases hstrike : event.strike with
      | none => simp [hstrike, ih]
      | some strike => simp [hstrike, ih]
  rw [Store.strikes, hpicked, h, ← hpicked, Store.strikes]

/-- What records no strike, and keeps the flooded sessions accounted for. -/
theorem Struck.keep (h : Struck deployment world windows) (hfollows : world.Follows later)
    (hseated : later.Seated)
    (hstrikes : later.store.events.filter (fun event => event.strike.isSome) =
      world.store.events.filter fun event => event.strike.isSome)
    (hclaimed : ∀ (id : SessionId) row, later.core.sessions[id]? = some row →
      row.handoffReason = some .flood → floods windows id = true)
    (howed : ∀ id, floods windows id = true → ∀ row, world.core.sessions[id]? = some row →
      row.state.isMediating = true → (∃ number, world.Runs number id) →
        ∃ found, later.core.sessions[id]? = some found ∧ (found.handoffReason = some .flood ∨
          found.state.isMediating = true ∧ ∃ number, later.Runs number id)) :
    Struck deployment later windows where
  seated := hseated
  recorded := h.recorded.trans (strikes_of_filter hstrikes).symm
  placed event hevent strike hstrike := by
    have hmem : event ∈ later.store.events.filter fun event => event.strike.isSome :=
      List.mem_filter.mpr ⟨hevent, by rw [hstrike]; rfl⟩
    rw [hstrikes] at hmem
    obtain ⟨row, hrow, hdispute⟩ := h.placed event (List.mem_of_mem_filter hmem) strike hstrike
    obtain ⟨found, hfound, hbecomes, -⟩ := hfollows.core.sessions _ row hrow
    exact ⟨found, hfound, hbecomes.disputeId.trans hdispute⟩
  apart := h.apart
  unjudged := h.unjudged
  large window hwindow :=
    lt_of_lt_of_le (h.large window hwindow) (Window.size_mono hfollows.log.messages)
  claimed := hclaimed
  owed id hfloods := by
    obtain ⟨row, hrow, hflood | ⟨hmediating, hruns⟩⟩ := h.owed id hfloods
    · obtain ⟨found, hfound, hbecomes, -⟩ := hfollows.core.sessions id row hrow
      exact ⟨found, hfound, Or.inl (hbecomes.reason _ hflood)⟩
    · exact howed id hfloods row hrow hmediating hruns

/-- Every call that records no strike. -/
theorem Struck.call (h : Struck deployment world windows) (hinv : world.core.Inv) {β : Type}
    {call : Call β} {oracle : Oracle} (hneeds : Needs thread call world)
    (hpre : StrikeNeeds deployment thread call (world, windows))
    (hcond : (completed deployment).call thread call oracle (world, windows) = true)
    (hmanned : world.manned thread = true) (hrecords : call.recordsStrike = false) :
    Struck deployment (performCall deployment thread call oracle world).2 windows := by
  have hstepped := performCall_stepped deployment thread call oracle hinv hneeds
  have hinv' := hstepped.inv
  have hfollows := hstepped.follows
  refine h.keep hfollows (h.seated.call call oracle) (performCall_strikes hrecords oracle world)
    ?_ ?_
  · intro id row hrow hflood
    rcases flood_of_claims hinv hinv' hrow hflood with ⟨before, hbefore, hsame⟩ |
      ⟨claim, hclaim, hnew, rfl, last, hclaimer⟩
    · exact h.claimed id before hbefore hsame
    · -- The call claimed the session, so it was flooded.
      have hcall := performCall_flood hclaim hnew hclaimer
      cases call with
      | handOff session reason now =>
        simp only [Call.claimsFlood, Bool.and_eq_true, beq_iff_eq] at hcall
        rw [← hcall.1]
        exact hpre.1 hcall.2
      | _ => cases hcall
  · intro id hfloods row hrow hmediating hruns
    obtain ⟨number, hruns⟩ := hruns
    have hmediates : world.mediates id = true := (mediates_iff hinv).mpr ⟨row, hrow, hmediating⟩
    have howes : owes (world, windows) id = true := by
      rw [owes, Bool.and_eq_true]
      exact ⟨hfloods, hmediates⟩
    obtain ⟨hkept | hkept, hquiet⟩ := completed_call hcond hruns
    · -- The turn hands its own session off.
      obtain ⟨rfl, hhands⟩ := hkept
      cases call with
      | handOff session reason now =>
        have hid : session.sessionId = id := by simpa [Call.handsOff] using hhands
        subst hid
        obtain ⟨found, hfound, hbecomes, -⟩ := hfollows.core.sessions _ row hrow
        refine ⟨found, hfound, Or.inl ?_⟩
        by_cases hreason : reason = .flood
        · subst hreason
          have hbefore : world.store.session session.sessionId = some row := by
            rw [hinv.session_eq]
            exact hrow
          obtain ⟨claimed, hclaimed, hflood⟩ := @reason_handOff deployment thread session row
            .flood now oracle (hquiet rfl howes) world hbefore hmediating
          rw [hinv'.session_eq, hfound, Option.some.injEq] at hclaimed
          rw [hclaimed]
          exact hflood
        · have hpaid := hpre.2 hreason (World.role_of_manned hmanned hruns)
          rw [howes] at hpaid
          cases hpaid
      | _ => cases hhands
    · rw [hmediates] at hkept
      obtain ⟨found, hfound, hstill⟩ := (mediates_iff hinv').mp hkept
      refine ⟨found, hfound, Or.inr ⟨hstill, number, runs_performCall hruns ?_⟩⟩
      by_cases hends : call.ends = false
      · exact Or.inr hends
      · left
        rintro rfl
        cases call with
        | joinTurn again =>
          have hpaid := hpre id (World.role_of_manned hmanned hruns)
          rw [howes] at hpaid
          cases hpaid
        | _ => exact hends rfl

/-- A strike that is recorded. -/
theorem Struck.strike (h : Struck deployment world windows) (hinv : world.core.Inv)
    {new : NewEvent} {strike : SessionId × Party × Int}
    (hstrike : MayStrike deployment thread.number new world windows strike) :
    Struck deployment { world with store := world.store.append new }
      (windows ++ [world.window deployment thread.number new.disputeId strike]) := by
  have hrecorded : (world.store.append new).strikes = world.store.strikes ++ [strike] := by
    unfold Store.strikes Store.append
    simp only [List.filterMap_append, List.filterMap_cons, List.filterMap_nil, Event.strike,
      hstrike.kind]
  obtain ⟨row, hrow, hdispute⟩ := hstrike.placed
  rw [hinv.session_eq] at hrow
  constructor
  · exact h.seated
  · rw [List.map_append, h.recorded, hrecorded]
    rfl
  · intro event hevent found hfound
    rcases List.mem_append.mp hevent with hold | hnew
    · exact h.placed event hold found hfound
    · rw [List.mem_singleton.mp hnew] at hfound ⊢
      simp only [Event.strike, hstrike.kind, Option.some.injEq] at hfound
      rw [← hfound]
      exact ⟨row, hrow, hdispute⟩
  -- The new window is disjoint from the ones before it.
  · rw [List.pairwise_append]
    refine ⟨h.apart, List.pairwise_singleton _ _, fun window hwindow found hfound => ?_⟩
    rw [List.mem_singleton.mp hfound]
    exact hstrike.apart window hwindow
  · intro window hwindow
    rcases List.mem_append.mp hwindow with hold | hnew
    · exact h.unjudged window hold
    · rw [List.mem_singleton.mp hnew]
      exact hstrike.unjudged
  · intro window hwindow
    rcases List.mem_append.mp hwindow with hold | hnew
    · exact h.large window hold
    · rw [List.mem_singleton.mp hnew]
      exact hstrike.large
  · exact fun id row hrow hflood => floods_append (h.claimed id row hrow hflood)
  · intro id hfloods
    by_cases hid : strike.1 = id
    -- The struck session now owes a hand-off, and its turn still runs.
    · subst hid
      obtain ⟨found, hfound, hmediating⟩ := (mediates_iff hinv).mp hstrike.mediates
      exact ⟨found, hfound, Or.inr ⟨hmediating, thread.number, hstrike.runs⟩⟩
    · refine h.owed id ?_
      rwa [floods_concat_of_ne hid] at hfloods

/-- **Every call** keeps the windows. -/
theorem Struck.performCall (h : Struck deployment world windows) (hinv : world.core.Inv) {β : Type}
    {call : Call β} {oracle : Oracle} (hneeds : Needs thread call world)
    (hpre : StrikeNeeds deployment thread call (world, windows))
    (hcond : (completed deployment).call thread call oracle (world, windows) = true)
    (hmanned : world.manned thread = true) :
    Struck deployment (performCall deployment thread call oracle world).2
      (noteStrike deployment thread.number call oracle world windows) := by
  by_cases hrecords : call.recordsStrike = true
  · cases call with
    | append new =>
      obtain ⟨strike, hstrike⟩ := hpre hrecords
      simp only [Serbero.performCall, World.underLock, World.orFail, noteStrike]
      cases oracle.fails with
      | some failure => exact h
      | none =>
        simp only [Option.isSome_none, Bool.false_eq_true, if_false, hstrike.kind, Option.map_some,
          Option.getD_some]
        exact h.strike hinv hstrike
    | _ => cases hrecords
  · rw [Bool.not_eq_true] at hrecords
    rw [noteStrike_of_not hrecords]
    exact h.call hinv hneeds hpre hcond hmanned hrecords

/-- The start of a task. -/
theorem Struck.launch (h : Struck deployment world windows) (hinv : world.core.Inv)
    (hlaunch : Serbero.launch thread world = some later) : Struck deployment later windows := by
  have hstepped := launch_stepped hinv hlaunch
  have hstore := (launch_traffic hlaunch).1
  have hsessions : later.core.sessions = world.core.sessions := congrArg Store.sessions hstore
  refine h.keep hstepped.follows (h.seated.launch hlaunch) (by rw [hstore]) ?_ ?_
  · intro id row hrow
    rw [hsessions] at hrow
    exact h.claimed id row hrow
  · intro id _ row hrow hmediating hruns
    refine ⟨row, by rw [hsessions]; exact hrow, Or.inr ⟨hmediating, ?_⟩⟩
    obtain ⟨number, hruns⟩ := hruns
    refine ⟨number, ?_⟩
    rcases launch_running hlaunch with hsame | ⟨started, -, -, hadded⟩
    · rw [World.Runs, hsame]
      exact hruns
    · rw [World.Runs, hadded]
      exact List.mem_append_left _ hruns

/-- What happens outside the tasks. -/
theorem Struck.happen (h : Struck deployment world windows) (hinv : world.core.Inv)
    {happening : Happening} (hhappen : Serbero.happen deployment happening world = some later) :
    Struck deployment later windows := by
  have hstepped := happen_stepped hinv hhappen
  obtain ⟨messages, hstore⟩ := happen_store hhappen
  have hsessions : later.core.sessions = world.core.sessions := by
    rw [World.core, hstore]
    rfl
  have hrunning := happen_running hhappen
  refine h.keep hstepped.follows ?_ (by rw [hstore]) ?_ ?_
  · rw [World.Seated, hrunning]
    exact h.seated
  · intro id row hrow
    rw [hsessions] at hrow
    exact h.claimed id row hrow
  · intro id _ row hrow hmediating hruns
    refine ⟨row, by rw [hsessions]; exact hrow, Or.inr ⟨hmediating, ?_⟩⟩
    unfold World.Runs
    rw [hrunning]
    exact hruns

/-- A restart between turns. -/
theorem Struck.restart (h : Struck deployment world windows) (hinv : world.core.Inv)
    {oracle : Oracle} (hcond : (completed deployment).restart oracle (world, windows) = true) :
    Struck deployment (Serbero.restart oracle world) windows := by
  have hfollows : world.Follows (Serbero.restart oracle world) := (restart_follows hinv).2
  refine h.keep hfollows List.nodup_nil rfl h.claimed ?_
  intro id hfloods row hrow hmediating hruns
  obtain ⟨number, hruns⟩ := hruns
  have hpaid := List.all_eq_true.mp hcond (number, id) hruns
  have hmediates : world.mediates id = true := (mediates_iff hinv).mpr ⟨row, hrow, hmediating⟩
  simp [owes, hfloods, hmediates] at hpaid

end steps

end Serbero
