import Serbero.Runtime.World

/-! # What a call can change

Whatever the step decides for a call, the world stays as it was or changes in one of the ways the call
is there for. What the calls leave alone is read off this list. -/

namespace Serbero

open Pool

/-- The world with one more session. -/
def World.withSession (world : World) (thread : Nat) (row : Session) : World :=
  { world with
    store := { world.store with sessions := world.store.sessions ++ [row] }
    openedBy := world.openedBy ++ [thread]
    insertedAt := world.insertedAt ++ [world.published.length] }

/-! ## Changes of the world -/

/-- What a call of a thread makes of the world. A field that is set to a variable is set to what the
source makes of it. -/
inductive Makes (deployment : Deployment) (number : Nat) (world : World) :
    {β : Type} → Call β → World → Prop
  /-- The call only tells something, or it fails. -/
  | same {β : Type} (call : Call β) : Makes deployment number world call world
  | read {α : Type} {query : Store → α} :
    Makes deployment number world (.read query) (world.look number)
  | load {id : SessionId} : Makes deployment number world (.load id) (world.look number)
  | setReady : Makes deployment number world .setReady { world with judgeReady := true }
  | claimTake {id : DisputeId} {lifecycle : Lifecycle} {hadSession : Bool}
    (hverdict : Candidate.check
      { enabled := deployment.settings.enabled
        ready := world.judgeReady
        lifecycle := lifecycle
        hadSession := hadSession
        taking := world.ownTakes.any fun entry => entry.1 == id } = .ok ()) :
    Makes deployment number world (.claimTake id lifecycle hadSession)
      { world with ownTakes := world.ownTakes ++ [(id, number)] }
  | releaseTake {id : DisputeId} :
    Makes deployment number world (.releaseTake id)
      { world with ownTakes := world.ownTakes.filter fun entry => entry.1 != id }
  | takeDispute {id : DisputeId} {dispute : DisputeEvent}
    (hcan : world.canPublish dispute = true) :
    Makes deployment number world (.takeDispute id) (world.publish dispute)
  | insertSession {id : DisputeId} {info : SolverDisputeInfo} {order : OrderEvent} {now : Int}
    (hnone : world.store.liveForDispute id = none) :
    Makes deployment number world (.insertSession id info order now)
      (world.withSession number (openingSession world.store world.clock id info order now).row)
  /-- The session is stored, and could not be read back. -/
  | insertStray {id : DisputeId} {info : SolverDisputeInfo} {order : OrderEvent} {now : Int}
    {row : Session} {strayed : List SessionId} (hnone : world.store.liveForDispute id = none)
    (hrow : row = (openingSession world.store world.clock id info order now).row)
    (hstray : (world.withSession number row).stray number row.sessionId =
      { world.withSession number row with strayed := strayed }) :
    Makes deployment number world (.insertSession id info order now)
      { world.withSession number row with strayed := strayed }
  | openChat {id : SessionId} :
    Makes deployment number world (.openChat id)
      { world with openChats := world.openChats.filter (· != id) ++ [id] }
  | openChatStray {id : SessionId} {openChats : List SessionId} {strayed : List SessionId}
    (hstray : ({ world with openChats := openChats } : World).stray number id =
      { world with openChats := openChats, strayed := strayed }) :
    Makes deployment number world (.openChat id)
      { world with openChats := openChats, strayed := strayed }
  | closeChat {id : SessionId} :
    Makes deployment number world (.closeChat id)
      { world with openChats := world.openChats.filter (· != id) }
  | gate {rule : GateRule} {message : Passed}
    (hallows : (world.store.session message.sessionId).any
      (fun session => rule.allows session.state) = true) :
    Makes deployment number world (.gate rule message)
      { world with
        passed := world.passed ++ [message]
        sending := world.sending ++ [(number, message)] }
  | unsent {message : Passed} :
    Makes deployment number world (.sendEvent message)
      { world with sending := world.sending.erase (number, message) }
  | sent {message : Passed} :
    Makes deployment number world (.sendEvent message)
      { world with
        sending := world.sending.erase (number, message)
        sent := world.sent ++ [message]
        recording := world.recording ++ [(number, message)]
        holdNotices :=
          if message.template = .holdNotice then
            world.holdNotices ++ [(message.sessionId, message.party)]
          else world.holdNotices }
  | unstored {new : NewMessage} :
    Makes deployment number world (.insertMessage new) (world.endSending number new)
  | stored {new : NewMessage} :
    Makes deployment number world (.insertMessage new)
      { world.endSending number new with
        store := { world.store with
          messages := world.store.messages ++ [new.row (world.store.messages.length + 1)] } }
  | activate {dispute : DisputeId} {id : SessionId} {now : Int} :
    Makes deployment number world (.activate dispute id now)
      (world.activate deployment.observers dispute id now)
  | activateStray {dispute : DisputeId} {id : SessionId} {now : Int} {strayed : List SessionId}
    (hstray : world.stray number id = { world with strayed := strayed }) :
    Makes deployment number world (.activate dispute id now) { world with strayed := strayed }
  | abandon {dispute : DisputeId} {id : Option SessionId} {reason : String} {now : Int} :
    Makes deployment number world (.abandon dispute id reason now)
      (world.abandon deployment.observers dispute id reason now)
  | abandonStray {dispute : DisputeId} {id : SessionId} {reason : String} {now : Int}
    {strayed : List SessionId} (hstray : world.stray number id = { world with strayed := strayed }) :
    Makes deployment number world (.abandon dispute (some id) reason now)
      { world with strayed := strayed }
  | append {new : NewEvent} :
    Makes deployment number world (.append new) (world.withStore (world.store.append new))
  | handOff {session : Session} {reason : HandoffReason} {now pending : Int} {store : Store}
    (hclaim : world.store.claimHandOff deployment.observers session reason now =
      some (pending, store)) :
    Makes deployment number world (.handOff session reason now)
      { world with
        store := store
        claims := world.claims ++
          [(session.sessionId, .handOff reason
            (Store.newestMessageId (world.store.listMessages session.sessionId)))] }
  | startGuiding {session : Session} {path : Path} {now pending : Int} {store : Store}
    (hclaim : world.store.claimGuiding deployment.observers session path now =
      some (pending, store)) :
    Makes deployment number world (.startGuiding session path now) (world.withStore store)
  | recordHold {session : Session} {now : Int} :
    Makes deployment number world (.recordHold session now)
      { world with
        store := world.store.append
          ⟨session.disputeId, some session.sessionId,
            .held (some (Store.newestMessageId (world.store.listMessages session.sessionId))), now⟩
        holdNotices := world.holdNotices.filter fun notice => notice.1 != session.sessionId }
  | setLanguage {id : SessionId} {party : Party} {lang : String} {now : Int} :
    Makes deployment number world (.setLanguage id party lang now)
      (world.withStore (world.store.setLanguage id party lang now))
  | countRound {id : SessionId} {party : Party} {firstInTurn : Bool} {now : Int} :
    Makes deployment number world (.countRound id party firstInTurn now)
      (world.withStore (world.store.countRound id party firstInTurn now))
  | insertEvaluation {new : NewEvaluation} :
    Makes deployment number world (.insertEvaluation new)
      (world.withStore (world.store.insertEvaluation new))
  | sendDm {solver : Nat} {dispute : DisputeId} {notification : String} :
    Makes deployment number world (.sendDm solver dispute notification)
      { world with told := world.told ++ [⟨world.closings, solver, dispute, notification⟩] }
  | lockFinishing :
    Makes deployment number world .lockFinishing
      { world with finishing := some number, closings := world.closings + 1 }
  | unlockFinishing :
    Makes deployment number world .unlockFinishing { world with finishing := none }
  | record {dispute : DisputeEvent} {now : Int} :
    Makes deployment number world (.record dispute now)
      { world with
        store := (world.store.record dispute now).2
        recorded :=
          if (world.store.record dispute now).1 = .unchanged then world.recorded
          else world.recorded ++ [dispute] }
  | markNotified {id : DisputeId} {now : Int} :
    Makes deployment number world (.markNotified id now)
      (world.withStore (world.store.markNotified id now))
  | spawn {task : Task} :
    Makes deployment number world (.spawn task) { world with spawned := world.spawned ++ [task] }
  | joinTurn {again : Bool} {running : List (Nat × SessionId)} {dueAgain deadlines : List SessionId}
    (hover : world.turnOver number again =
      { world with running := running, dueAgain := dueAgain, deadlines := deadlines }) :
    Makes deployment number world (.joinTurn again)
      { world with running := running, dueAgain := dueAgain, deadlines := deadlines }
  | joinTick : Makes deployment number world .joinTick { world with ticking := none }

variable {deployment : Deployment} {number : Nat} {world : World}

/-- Leaving an opening writes down no more than that. -/
theorem World.stray_eq (world : World) (number : Nat) (id : SessionId) :
    ∃ strayed, world.stray number id = { world with strayed := strayed } := by
  unfold World.stray
  split
  · exact ⟨_, rfl⟩
  · exact ⟨world.strayed, rfl⟩

/-- The end of a turn concerns the turn loop only. -/
theorem World.turnOver_eq (world : World) (number : Nat) (again : Bool) :
    ∃ running dueAgain deadlines, world.turnOver number again =
      { world with running := running, dueAgain := dueAgain, deadlines := deadlines } := by
  unfold World.turnOver
  split
  · exact ⟨world.running, world.dueAgain, world.deadlines, rfl⟩
  · dsimp only
    split
    · exact ⟨_, _, _, rfl⟩
    · exact ⟨_, world.dueAgain, world.deadlines, rfl⟩

namespace Makes

variable {β γ : Type} {call : Call β}

/-- A call that failed did nothing. -/
theorem orFail {oracle : Oracle} {done : Except String γ × World}
    (h : Makes deployment number world call done.2) :
    Makes deployment number world call (world.orFail oracle done).2 := by
  unfold World.orFail
  split
  · exact .same call
  · exact h

/-- The answer to a take. -/
theorem answerTake (oracle : Oracle) (id : DisputeId) :
    Makes deployment number world (.takeDispute id) (world.answerTake oracle id).2 := by
  unfold World.answerTake
  dsimp only
  split
  · exact .same _
  · split
    · next hcan => exact .takeDispute hcan
    · exact .same _
  · split
    · next hcan => exact .takeDispute hcan
    · exact .same _

/-- The insertion of a session. -/
theorem openSession (oracle : Oracle) (id : DisputeId) (info : SolverDisputeInfo)
    (order : OrderEvent) (now : Int) :
    Makes deployment number world (.insertSession id info order now)
      (world.openSession number oracle id info order now).2 := by
  unfold World.openSession
  dsimp only
  split
  · exact .same _
  · exact .same _
  · next store hinsert =>
    unfold Store.insertSession at hinsert
    split at hinsert
    · cases hinsert
    split at hinsert
    · cases hinsert
    next hlive =>
    cases hinsert
    have hnone := Option.not_isSome_iff_eq_none.mp hlive
    split
    · obtain ⟨strayed, hstray⟩ := (world.withSession number (openingSession world.store world.clock
        id info order now).row).stray_eq number world.store.sessions.length
      show Makes deployment number world _ ((world.withSession number (openingSession world.store
        world.clock id info order now).row).stray number world.store.sessions.length)
      rw [hstray]
      exact .insertStray hnone rfl hstray
    · exact .insertSession hnone

/-- The opening of a session's channels. -/
theorem openedChat (oracle : Oracle) (id : SessionId) :
    Makes deployment number world (.openChat id) (world.openChat number oracle id).2 := by
  have left : ∀ openChats, Makes deployment number world (.openChat id)
      (({ world with openChats := openChats } : World).stray number id) := by
    intro openChats
    obtain ⟨strayed, hstray⟩ := ({ world with openChats := openChats } : World).stray_eq number id
    rw [hstray]
    exact .openChatStray hstray
  unfold World.openChat
  dsimp only
  split
  · exact left world.openChats
  · exact left _
  · exact .openChat

end Makes

/-- **What a call can change.** -/
theorem performCall_makes (deployment : Deployment) {β : Type} (thread : Thread Task)
    (call : Call β) (oracle : Oracle) (world : World) :
    Makes deployment thread.number world call
      (performCall deployment thread call oracle world).2 := by
  cases call with
  | read query => exact .orFail .read
  | load id => exact .orFail .load
  | now => exact .same _
  | readyJudge => exact .same _
  | setReady => exact .setReady
  | claimTake id lifecycle hadSession =>
    simp only [performCall]
    split
    · next hverdict => exact .claimTake hverdict
    · exact .same _
  | releaseTake id => exact .releaseTake
  | isTaking id => exact .same _
  | takeDispute id => exact .orFail (.answerTake oracle id)
  | fetchOrder => exact .same _
  | insertSession id info order now => exact .orFail (.openSession oracle id info order now)
  | openChat id => exact .openedChat oracle id
  | closeChat id => exact .closeChat
  | chatIsOpen id => exact .same _
  | wrap => exact .orFail (.same _)
  | gate rule message =>
    refine .orFail ?_
    unfold World.checkGate
    split
    · next hallows => exact .gate hallows
    · exact .same _
  | sendEvent message =>
    simp only [performCall, World.sendEvent]
    split
    · exact .unsent
    · exact .sent
  | insertMessage new =>
    simp only [performCall, World.orFail]
    split
    · exact .unstored
    split
    · exact .unstored
    -- A row is stored unless one with its outer id is there.
    · next inserted store hinsert =>
      rcases (Store.insertMessageIfNew_eq_ok hinsert).2 with ⟨-, rfl, -⟩ | ⟨-, rfl⟩
      · exact .unstored
      · exact .stored
  | activate dispute id now =>
    simp only [performCall]
    split
    -- The call fails, and the session it worked on may be left behind.
    · obtain ⟨strayed, hstray⟩ := world.stray_eq thread.number id
      rw [hstray]
      exact .activateStray hstray
    · exact .activate
  | abandon dispute id reason now =>
    simp only [performCall]
    split
    · cases id with
      | none => exact .same _
      | some id =>
        obtain ⟨strayed, hstray⟩ := world.stray_eq thread.number id
        rw [Option.elim_some, hstray]
        exact .abandonStray hstray
    · exact .abandon
  | append new => exact .orFail .append
  | handOff session reason now =>
    refine .orFail ?_
    split
    · exact .same _
    · next hclaim => exact .handOff hclaim
  | startGuiding session path now =>
    refine .orFail ?_
    split
    · exact .same _
    · next hclaim => exact .startGuiding hclaim
  | recordHold session now => exact .orFail .recordHold
  | setLanguage id party lang now => exact .orFail .setLanguage
  | countRound id party firstInTurn now => exact .orFail .countRound
  | insertEvaluation new => exact .orFail .insertEvaluation
  | evaluate state => exact .orFail (.same _)
  | sendDm solver dispute notification => exact .orFail .sendDm
  | lockFinishing => exact .lockFinishing
  | unlockFinishing => exact .unlockFinishing
  | record dispute now => exact .orFail .record
  | markNotified id now => exact .orFail .markNotified
  | spawn task => exact .spawn
  | joinTurn again =>
    obtain ⟨running, dueAgain, deadlines, hover⟩ := world.turnOver_eq thread.number again
    show Makes _ _ _ _ (world.turnOver thread.number again)
    rw [hover]
    exact .joinTurn hover
  | joinTick => exact .joinTick

/-! ## What happens outside the tasks -/

/-- What something outside the tasks makes of the world. -/
inductive Happens (world : World) : Happening → World → Prop
  | clock {now : Int} : Happens world (.clock now) { world with clock := now }
  | publish {dispute : DisputeEvent} (hown : dispute.own = false)
      (hcan : world.canPublish dispute = true) :
    Happens world (.publish dispute) (world.publish dispute)
  /-- The channels of a session that ended are forgotten. -/
  | forgotten {inbound : Inbound} :
    Happens world (.receive inbound)
      { world with openChats := world.openChats.filter (· != inbound.sessionId) }
  /-- A party's message is stored for its live session. -/
  | received {inbound : Inbound} {new : NewMessage} {announced : List SessionId}
      (hid : new.sessionId = inbound.sessionId) (hinbound : new.direction = .inbound)
      (hlive : (world.store.session new.sessionId).any Session.isLive = true) :
    Happens world (.receive inbound)
      { world with
        store := { world.store with
          messages := world.store.messages ++ [new.row (world.store.messages.length + 1)] }
        announced := announced }
  | touch {id : SessionId} {rest : List SessionId} (hannounced : world.announced = id :: rest) :
    Happens world .touch
      { world with
        announced := rest
        deadlines := world.deadlines.filter (· != id) ++ [id] }
  | dueAgain {id : SessionId} (hdue : world.deadlines.contains id = true)
      (hruns : (world.running.any fun entry => entry.2 == id) = true) :
    Happens world (.dueAgain id)
      { world with
        deadlines := world.deadlines.filter (· != id)
        dueAgain := world.dueAgain.filter (· != id) ++ [id] }

/-- A party's message is stored, or its session is over. -/
theorem happens_of_receive {inbound : Inbound} {later : World}
    (h : world.receive deployment inbound = some later) :
    Happens world (.receive inbound) later := by
  unfold World.receive at h
  split at h
  · cases h
  split at h
  · cases h
    exact .forgotten
  next hlive =>
  split at h
  · cases h
  · cases h
  · next store hinsert =>
    cases h
    rcases (Store.insertMessageIfNew_eq_ok hinsert).2 with ⟨hfalse, -⟩ | ⟨-, rfl⟩
    · cases hfalse
    · exact .received rfl rfl (by simpa using hlive)

/-- **What can happen outside the tasks.** -/
theorem happens_of_happen {happening : Happening} {later : World}
    (h : happen deployment happening world = some later) : Happens world happening later := by
  cases happening with
  | clock now =>
    cases h
    exact .clock
  | publish dispute =>
    simp only [happen] at h
    split at h
    · next hcan =>
      cases h
      obtain ⟨hown, hcan⟩ := Bool.and_eq_true_iff.mp hcan
      exact .publish (by simpa using hown) hcan
    · cases h
  | receive inbound => exact happens_of_receive h
  | touch =>
    simp only [happen] at h
    split at h
    · cases h
    · next hannounced =>
      cases h
      exact .touch hannounced
  | dueAgain id =>
    simp only [happen] at h
    split at h
    · next hdue =>
      cases h
      obtain ⟨hdue, hruns⟩ := Bool.and_eq_true_iff.mp hdue
      exact .dueAgain hdue hruns
    · cases h

/-! ## The transactions of a claim -/

/-- A hand-off that claims writes the row, two marks and the notices of the observers. -/
theorem Store.claimHandOff_eq_some {store later : Store} {observers : List Nat} {session : Session}
    {reason : HandoffReason} {now pending : Int}
    (h : store.claimHandOff observers session reason now = some (pending, later)) :
    (store.handOff session.sessionId reason now).1 = true ∧
      later = (((store.handOff session.sessionId reason now).2.append
        ⟨session.disputeId, some session.sessionId, .handoff reason
          (Store.newestMessageId (store.listMessages session.sessionId)), now⟩).append
        ⟨session.disputeId, some session.sessionId, .briefPending (.handoff reason), now⟩
          ).queueForObservers observers session.disputeId (Subject.handoff reason).text now := by
  unfold Store.claimHandOff at h
  simp only [] at h
  split at h
  · next hclaimed =>
    cases h
    exact ⟨hclaimed, rfl⟩
  · cases h

/-- A guidance that claims writes the row, two marks and the notices of the observers. -/
theorem Store.claimGuiding_eq_some {store later : Store} {observers : List Nat} {session : Session}
    {path : Path} {now pending : Int}
    (h : store.claimGuiding observers session path now = some (pending, later)) :
    (store.startGuiding session.sessionId now).1 = true ∧
      later = (((store.startGuiding session.sessionId now).2.append
        ⟨session.disputeId, some session.sessionId, .guided path, now⟩).append
        ⟨session.disputeId, some session.sessionId, .briefPending (.guide path), now⟩
          ).queueForObservers observers session.disputeId (Subject.guide path).text now := by
  unfold Store.claimGuiding at h
  simp only [] at h
  split at h
  · next hclaimed =>
    cases h
    exact ⟨hclaimed, rfl⟩
  · cases h

/-! ## Changes of the store -/

/-- What a call writes to the store. -/
inductive Writes (observers : List Nat) (store : Store) : {β : Type} → Call β → Store → Prop
  | nothing {β : Type} (call : Call β) : Writes observers store call store
  | insertSession {id : DisputeId} {info : SolverDisputeInfo} {order : OrderEvent} {now : Int}
    {row : NewSession} (hid : row.sessionId = store.sessions.length) :
    Writes observers store (.insertSession id info order now)
      { store with sessions := store.sessions ++ [row.row] }
  | insertMessage {new : NewMessage} :
    Writes observers store (.insertMessage new)
      { store with messages := store.messages ++ [new.row (store.messages.length + 1)] }
  | activate {dispute : DisputeId} {id : SessionId} {now : Int} :
    Writes observers store (.activate dispute id now)
      ((store.setState id .active now).queueForObservers observers dispute mediatingSubject now)
  | abandon {dispute : DisputeId} {id : Option SessionId} {reason : String} {now : Int} :
    Writes observers store (.abandon dispute id reason now)
      (store.abandonOpening observers dispute id reason now)
  | append {new : NewEvent} : Writes observers store (.append new) (store.append new)
  | handOff {session : Session} {reason : HandoffReason} {now pending : Int} {later : Store}
    (hclaim : store.claimHandOff observers session reason now = some (pending, later)) :
    Writes observers store (.handOff session reason now) later
  | startGuiding {session : Session} {path : Path} {now pending : Int} {later : Store}
    (hclaim : store.claimGuiding observers session path now = some (pending, later)) :
    Writes observers store (.startGuiding session path now) later
  | recordHold {session : Session} {now : Int} :
    Writes observers store (.recordHold session now)
      (store.append ⟨session.disputeId, some session.sessionId,
        .held (some (Store.newestMessageId (store.listMessages session.sessionId))), now⟩)
  | setLanguage {id : SessionId} {party : Party} {lang : String} {now : Int} :
    Writes observers store (.setLanguage id party lang now) (store.setLanguage id party lang now)
  | countRound {id : SessionId} {party : Party} {firstInTurn : Bool} {now : Int} :
    Writes observers store (.countRound id party firstInTurn now)
      (store.countRound id party firstInTurn now)
  | insertEvaluation {new : NewEvaluation} :
    Writes observers store (.insertEvaluation new) (store.insertEvaluation new)
  | record {dispute : DisputeEvent} {now : Int} :
    Writes observers store (.record dispute now) (store.record dispute now).2
  | markNotified {id : DisputeId} {now : Int} :
    Writes observers store (.markNotified id now) (store.markNotified id now)

/-- What a call makes of the world is what it may write to the store. -/
theorem Makes.writes {β : Type} {call : Call β} {later : World}
    (h : Makes deployment number world call later) :
    Writes deployment.observers world.store call later.store := by
  cases h with
  | insertSession hnone => exact .insertSession rfl
  | insertStray hnone hrow hstray =>
    subst hrow
    exact .insertSession rfl
  | stored => exact .insertMessage
  | activate => exact .activate
  | abandon => exact .abandon
  | append => exact .append
  | handOff hclaim => exact .handOff hclaim
  | startGuiding hclaim => exact .startGuiding hclaim
  | recordHold => exact .recordHold
  | setLanguage => exact .setLanguage
  | countRound => exact .countRound
  | insertEvaluation => exact .insertEvaluation
  | record => exact .record
  | markNotified => exact .markNotified
  | _ => exact .nothing _

/-- **What a call can write.** -/
theorem performCall_writes (deployment : Deployment) {β : Type} (thread : Thread Task)
    (call : Call β) (oracle : Oracle) (world : World) :
    Writes deployment.observers world.store call
      (performCall deployment thread call oracle world).2.store :=
  (performCall_makes deployment thread call oracle world).writes

end Serbero
