import Serbero.Runtime.Holds

/-! # Messages that go out once

A message is on its way between the gate's check and its record. Where it starts only when the party
does not have it and nobody else is sending it, a relay accepts it once. -/

namespace Serbero

open Pool

variable {deployment : Deployment} {thread : Thread Task}

/-- The newest cutoff of a session's holds. -/
def Store.holdCutoff (store : Store) (id : SessionId) : Int :=
  (((store.holds id).map Event.heldCutoff).max?).getD 0

/-- The party has the message; a hold notice counts since the session's newest hold. -/
def Store.hasGot (store : Store) (message : Passed) : Bool :=
  (store.listMessages message.sessionId).any fun row =>
    row.isSent message.party message.template &&
      (message.template != .holdNotice || decide (row.id > store.holdCutoff message.sessionId))

namespace World

variable (world : World)

/-- The message is between the gate's check and its record. -/
def underWay (message : Passed) : Nat :=
  (world.sending ++ world.recording).countP fun entry => entry.2 == message

/-- How often a relay accepted the message; a hold notice since the session's newest hold. -/
def delivered (message : Passed) : Nat :=
  if message.template = .holdNotice then
    world.holdNotices.count (message.sessionId, message.party)
  else world.sent.count message

/-- The gate lets the message pass. -/
def admits (rule : GateRule) (message : Passed) : Bool :=
  (world.store.session message.sessionId).any fun session => rule.allows session.state

/-- Nobody sends the message, and the party does not have it. -/
structure Fresh (message : Passed) : Prop where
  missing : world.store.hasGot message = false
  idle : world.underWay message = 0

/-- The message went out once at most. -/
structure Once (message : Passed) : Prop where
  sole : world.underWay message ≤ 1
  once : world.delivered message ≤ 1
  /-- What a relay accepted is stored, or about to be. -/
  kept : 0 < world.delivered message →
    world.store.hasGot message = true ∨ ∃ number, (number, message) ∈ world.recording
  unsent : ∀ number, (number, message) ∈ world.sending → world.delivered message = 0

end World

/-! ## What a party has -/

/-- A cutoff of a session's holds is no newer than the newest. -/
theorem Store.le_holdCutoff {store : Store} {id : SessionId} {event : Event}
    (h : event ∈ store.holds id) : event.heldCutoff ≤ store.holdCutoff id := by
  unfold Store.holdCutoff
  cases hmax : ((store.holds id).map Event.heldCutoff).max? with
  | none =>
    rw [List.max?_eq_none_iff, List.map_eq_nil_iff] at hmax
    rw [hmax] at h
    exact absurd h List.not_mem_nil
  | some newest => exact (List.max?_eq_some_iff.mp hmax).2 _ (List.mem_map_of_mem h)

/-- Where no hold starts, the holds stay. -/
theorem Store.holds_eq {store later : Store} {id : SessionId}
    (h : ∃ more, later.events = store.events ++ more ∧ ∀ event ∈ more, event.isHeld id = false) :
    later.holds id = store.holds id := by
  obtain ⟨more, heq, hmore⟩ := h
  have hnone : more.filter (fun event => event.isHeld id) = [] := by
    rw [List.filter_eq_nil_iff]
    intro event hevent
    rw [hmore event hevent]
    exact Bool.false_ne_true
  rw [Store.holds, Store.holds, heq, List.filter_append, hnone, List.append_nil]

/-- A log without holds starts none. -/
theorem Store.Logs.holds_eq {store later : Store}
    (h : Store.Logs (fun kind => !kind.isHeld) store later) (id : SessionId) :
    later.holds id = store.holds id := by
  obtain ⟨more, heq, hmore⟩ := h
  refine Store.holds_eq ⟨more, heq, fun event hevent => ?_⟩
  have hnot : (!event.kind.isHeld) = true := hmore event hevent
  by_contra hheld
  rw [(Event.isHeld_iff.mp (by simpa using hheld)).2] at hnot
  cases hnot

/-- A party has a message when a row sent to it says so. -/
theorem Store.hasGot_iff {store : Store} {message : Passed} :
    store.hasGot message = true ↔ ∃ row ∈ store.messages, row.sessionId = message.sessionId ∧
      row.isSent message.party message.template = true ∧
        (message.template = .holdNotice → store.holdCutoff message.sessionId < row.id) := by
  simp only [Store.hasGot, List.any_eq_true, Store.mem_listMessages, Bool.and_eq_true,
    Bool.or_eq_true, bne_iff_ne, decide_eq_true_eq]
  constructor
  · rintro ⟨row, ⟨hrow, hid⟩, hsent, hcutoff⟩
    exact ⟨row, hrow, hid, hsent, fun hhold => hcutoff.resolve_left fun hother => hother hhold⟩
  · rintro ⟨row, hrow, hid, hsent, hcutoff⟩
    refine ⟨row, ⟨hrow, hid⟩, hsent, ?_⟩
    by_cases hhold : message.template = .holdNotice
    · exact Or.inr (hcutoff hhold)
    · exact Or.inl hhold

/-- What a party has, it keeps while no hold of its session starts. -/
theorem Store.hasGot_mono {store later : Store} {message : Passed}
    (h : store.hasGot message = true) (hmessages : store.messages <+: later.messages)
    (hholds : message.template = .holdNotice →
      later.holds message.sessionId = store.holds message.sessionId) :
    later.hasGot message = true := by
  obtain ⟨row, hrow, hid, hsent, hcutoff⟩ := Store.hasGot_iff.mp h
  refine Store.hasGot_iff.mpr ⟨row, hmessages.subset hrow, hid, hsent, fun hhold => ?_⟩
  rw [Store.holdCutoff, hholds hhold]
  exact hcutoff hhold

/-- A message that is stored is one the party has. -/
theorem Store.Counts.hasGot {store : Store} (h : store.Counts) {message : Passed} {row : Message}
    (hid : row.sessionId = message.sessionId)
    (hsent : row.isSent message.party message.template = true)
    (hnumber : row.id = store.messages.length + 1) :
    ({ store with messages := store.messages ++ [row] } : Store).hasGot message = true := by
  refine Store.hasGot_iff.mpr ⟨row, List.mem_append_right _ List.mem_cons_self, hid, hsent, ?_⟩
  intro _
  rw [hnumber]
  change (((store.holds message.sessionId).map Event.heldCutoff).max?).getD 0 < _
  cases hmax : ((store.holds message.sessionId).map Event.heldCutoff).max? with
  | none =>
    rw [Option.getD_none]
    omega
  | some newest =>
    -- The newest hold's cutoff is a number that was given before.
    obtain ⟨event, hevent, rfl⟩ := List.mem_map.mp (List.max?_mem hmax)
    obtain ⟨hevent, hheld⟩ := List.mem_filter.mp hevent
    obtain ⟨cutoff, hkind, hle⟩ := h.cutoffs event hevent (Event.isHeld_iff.mp hheld).2
    rw [Option.getD_some, Event.heldCutoff, hkind]
    simp only []
    omega

/-! ## Steps -/

/-- The row records this message. -/
def NewMessage.records (new : NewMessage) (message : Passed) : Prop :=
  new.sessionId = message.sessionId ∧ new.party = message.party ∧
    new.templateId = some message.template

/-- Storing the message does not fail, and it is no copy of a stored one. -/
def World.stores (world : World) (oracle : Oracle) (new : NewMessage) : Bool :=
  oracle.fails.isNone &&
    match world.store.insertMessageIfNew new with
    | .ok (inserted, _) => inserted
    | .error _ => false

/-- A message that is stored is the store's newest. -/
theorem messages_of_stores {world : World} {oracle : Oracle} {new : NewMessage}
    (h : world.stores oracle new = true) :
    (performCall deployment thread (.insertMessage new) oracle world).2.store.messages =
      world.store.messages ++ [new.row (world.store.messages.length + 1)] := by
  rw [World.stores, Bool.and_eq_true, Option.isNone_iff_eq_none] at h
  obtain ⟨hfails, hinserted⟩ := h
  cases hresult : world.store.insertMessageIfNew new with
  | error failure =>
    rw [hresult] at hinserted
    cases hinserted
  | ok stored =>
    obtain ⟨inserted, store⟩ := stored
    rw [hresult] at hinserted
    have hwrites : (world.endSending thread.number new).store.insertMessageIfNew new =
        .ok (inserted, store) := hresult
    simp only [performCall, World.orFail, hfails, hwrites]
    rcases (Store.insertMessageIfNew_eq_ok hresult).2 with ⟨hfalse, -⟩ | ⟨-, hlater⟩
    · rw [hfalse] at hinserted
      cases hinserted
    · change store.messages = _
      rw [hlater]

namespace World

variable {world later : World} {message other : Passed}

/-- Under way is at the relays, or accepted and not stored yet. -/
theorem underWay_eq :
    world.underWay message = world.sending.countP (fun entry => entry.2 == message) +
      world.recording.countP fun entry => entry.2 == message := List.countP_append

/-- A message that someone sends is under way. -/
theorem underWay_pos {number : Nat} (h : (number, message) ∈ world.sending ++ world.recording) :
    0 < world.underWay message :=
  List.countP_pos_iff.mpr ⟨_, h, by simp⟩

end World

namespace World.Once

variable {world later : World} {message other : Passed}

/-- What leaves the deliveries alone keeps them. -/
theorem keep (h : world.Once message) (hmessages : world.store.messages <+: later.store.messages)
    (hholds : message.template = .holdNotice →
      later.store.holds message.sessionId = world.store.holds message.sessionId)
    (hsending : later.sending = world.sending) (hsent : later.sent = world.sent)
    (hrecording : later.recording = world.recording)
    (hnotices : later.holdNotices = world.holdNotices) : later.Once message := by
  have hdelivered : later.delivered message = world.delivered message := by
    rw [World.delivered, World.delivered, hsent, hnotices]
  constructor
  · rw [World.underWay, hsending, hrecording]
    exact h.sole
  · rw [hdelivered]
    exact h.once
  · rw [hdelivered, hrecording]
    exact fun hpos => (h.kept hpos).imp (fun hgot => Store.hasGot_mono hgot hmessages hholds) id
  · rw [hdelivered, hsending]
    exact h.unsent

/-- A message that starts is fresh. -/
theorem passes (h : world.Once message) (number : Nat)
    (hfresh : other = message → world.Fresh message) :
    ({ world with
        passed := world.passed ++ [other]
        sending := world.sending ++ [(number, other)] } : World).Once message := by
  by_cases hsame : other = message
  · subst hsame
    obtain ⟨hmissing, hidle⟩ := hfresh rfl
    rw [World.underWay_eq] at hidle
    have hnone : world.delivered other = 0 := by
      by_contra hpos
      rcases h.kept (Nat.pos_of_ne_zero hpos) with hgot | ⟨found, hrecording⟩
      · rw [hmissing] at hgot
        cases hgot
      · have : 0 < world.underWay other := World.underWay_pos (List.mem_append_right _ hrecording)
        rw [World.underWay_eq] at this
        omega
    refine ⟨?_, h.once, h.kept, fun _ _ => hnone⟩
    rw [World.underWay_eq, List.countP_append]
    simp only [List.countP_singleton, beq_self_eq_true, if_true]
    omega
  · refine ⟨?_, h.once, h.kept, fun found hfound => ?_⟩
    · have hcount := h.sole
      rw [World.underWay_eq] at hcount ⊢
      rw [List.countP_append, List.countP_singleton]
      simp only [beq_iff_eq, hsame, if_false]
      omega
    · rcases List.mem_append.mp hfound with hold | hnew
      · exact h.unsent found hold
      · cases List.mem_singleton.mp hnew
        exact absurd rfl hsame

/-- Erasing an entry of the message leaves one less. -/
theorem countP_erase {entries : List (Nat × Passed)} {number : Nat}
    (h : (number, other) ∈ entries) :
    (entries.erase (number, other)).countP (fun entry => entry.2 == message) +
      (if other = message then 1 else 0) = entries.countP fun entry => entry.2 == message := by
  rw [(List.perm_cons_erase h).countP_eq, List.countP_cons]
  simp only [beq_iff_eq]

/-- A relay accepts a message once, or the send is given up. -/
theorem sendEvent (h : world.Once message) (hsending : (thread.number, other) ∈ world.sending)
    (oracle : Oracle) :
    (performCall deployment thread (.sendEvent other) oracle world).2.Once message := by
  have hcount : (world.sending.erase (thread.number, other)).countP
      (fun entry => entry.2 == message) + _ = _ := countP_erase hsending
  have hsole := h.sole
  rw [World.underWay_eq] at hsole
  have herased : ∀ number, (number, message) ∈ world.sending.erase (thread.number, other) →
      world.delivered message = 0 :=
    fun number hmem => h.unsent number (List.mem_of_mem_erase hmem)
  simp only [performCall, World.sendEvent]
  split
  · refine ⟨?_, h.once, h.kept, herased⟩
    rw [World.underWay_eq]
    change (world.sending.erase (thread.number, other)).countP (fun entry => entry.2 == message) +
      world.recording.countP (fun entry => entry.2 == message) ≤ 1
    omega
  · by_cases hsame : other = message
    · subst hsame
      rw [if_pos rfl] at hcount
      have hnone := h.unsent thread.number hsending
      have hdelivered : ({ world with
          sending := world.sending.erase (thread.number, other)
          sent := world.sent ++ [other]
          recording := world.recording ++ [(thread.number, other)]
          holdNotices :=
            if other.template = .holdNotice then
              world.holdNotices ++ [(other.sessionId, other.party)]
            else world.holdNotices } : World).delivered other = 1 := by
        rw [World.delivered] at hnone ⊢
        split at hnone
        · next hhold => simp [hhold, List.count_append, hnone]
        · next hhold => simp [hhold, List.count_append, hnone]
      refine ⟨?_, by rw [hdelivered], fun _ => Or.inr ⟨thread.number,
        List.mem_append_right _ List.mem_cons_self⟩, fun number hmem => ?_⟩
      · rw [World.underWay_eq, List.countP_append, List.countP_singleton]
        simp only [beq_self_eq_true, if_true]
        omega
      · -- The message was sent once, and nobody else is about to send it.
        have hpos : 0 < (world.sending.erase (thread.number, other)).countP
            fun entry => entry.2 == other := List.countP_pos_iff.mpr ⟨_, hmem, by simp⟩
        omega
    · rw [if_neg hsame] at hcount
      have hdelivered : ({ world with
          sending := world.sending.erase (thread.number, other)
          sent := world.sent ++ [other]
          recording := world.recording ++ [(thread.number, other)]
          holdNotices :=
            if other.template = .holdNotice then
              world.holdNotices ++ [(other.sessionId, other.party)]
            else world.holdNotices } : World).delivered message = world.delivered message := by
        rw [World.delivered, World.delivered]
        split
        · next hhold =>
          split
          · next hother =>
            have hdiffers : (other.sessionId, other.party) ≠ (message.sessionId, message.party) := by
              intro heq
              obtain ⟨hid, hparty⟩ := Prod.mk.inj heq
              apply hsame
              cases other
              cases message
              simp only [Passed.mk.injEq]
              exact ⟨hid, hparty, hother.trans hhold.symm⟩
            rw [List.count_append, List.count_singleton]
            simp [hdiffers]
          · rfl
        · rw [List.count_append, List.count_singleton]
          simp [hsame]
      refine ⟨?_, by rw [hdelivered]; exact h.once, ?_, ?_⟩
      · rw [World.underWay_eq, List.countP_append, List.countP_singleton]
        simp only [beq_iff_eq, hsame, if_false]
        omega
      · rw [hdelivered]
        intro hpos
        rcases h.kept hpos with hstored | ⟨number, hmem⟩
        · exact .inl hstored
        · exact .inr ⟨number, List.mem_append_left _ hmem⟩
      · rw [hdelivered]
        exact herased

/-- A message that is stored is no longer under way. -/
theorem insertMessage (h : world.Once message) (hcounts : world.store.Counts) {new : NewMessage}
    {oracle : Oracle} (hout : new.direction = .outbound)
    (hstores : new.records message → world.stores oracle new = true) :
    (performCall deployment thread (.insertMessage new) oracle world).2.Once message := by
  obtain ⟨messages, hlater, hmessages⟩ :=
    performCall_insertMessage deployment thread new oracle world
  have hadded : new.records message →
      messages = world.store.messages ++ [new.row (world.store.messages.length + 1)] := by
    intro hrecords
    have hstored : (performCall deployment thread (.insertMessage new) oracle
        world).2.store.messages = _ := messages_of_stores (hstores hrecords)
    rw [hlater] at hstored
    exact hstored
  rw [hlater]
  refine ⟨?_, h.once, fun hpos => ?_, h.unsent⟩
  -- What this task is recording now is one less, or the same.
  · have hsole := h.sole
    rw [World.underWay_eq] at hsole ⊢
    have hless : (world.endSending thread.number new).recording.countP
        (fun entry => entry.2 == message) ≤ world.recording.countP fun entry => entry.2 == message :=
      List.filter_sublist.countP_le
    change world.sending.countP (fun entry => entry.2 == message) +
      (world.endSending thread.number new).recording.countP (fun entry => entry.2 == message) ≤ 1
    omega
  -- The record becomes a row, or it is another message's and stays.
  · by_cases hrecords : new.records message
    · left
      rw [hadded hrecords]
      obtain ⟨hid, hparty, htemplate⟩ := hrecords
      refine hcounts.hasGot hid ?_ rfl
      simp [Message.isSent, NewMessage.row, hout, hparty, htemplate]
    · rcases h.kept hpos with hgot | ⟨number, hrecording⟩
      · left
        refine Store.hasGot_mono hgot ?_ fun _ => rfl
        rcases hmessages with rfl | rfl
        · exact List.prefix_rfl
        · exact List.prefix_append _ _
      · right
        refine ⟨number, List.mem_filter.mpr ⟨hrecording, ?_⟩⟩
        rw [Bool.or_eq_true]
        right
        cases htemplate : new.templateId with
        | none => rfl
        | some template =>
          rw [Option.all_some, bne_iff_ne]
          intro hsame
          change message = _ at hsame
          rw [hsame] at hrecords
          exact hrecords ⟨rfl, rfl, htemplate⟩

/-- A hold that starts is one whose notice nobody got. -/
theorem recordHold (h : world.Once message) (session : Session) (now : Int) (oracle : Oracle) :
    (performCall deployment thread (.recordHold session now) oracle world).2.Once message := by
  rcases performCall_recordHold deployment thread session now oracle world with hsame | hlater
  · rw [hsame]
    exact h
  rw [hlater]
  by_cases hours : message.template = .holdNotice ∧ message.sessionId = session.sessionId
  · obtain ⟨hhold, hid⟩ := hours
    -- The hold is on record now, so its notices are counted from nothing again.
    have hnone : (world.holdNotices.filter fun notice => notice.1 != session.sessionId).count
        (message.sessionId, message.party) = 0 := by
      rw [List.count_eq_zero, List.mem_filter, hid]
      simp
    refine ⟨h.sole, ?_, fun hpos => ?_, fun number hmem => ?_⟩
    · rw [World.delivered, if_pos hhold]
      exact hnone.trans_le (Nat.zero_le 1)
    · rw [World.delivered, if_pos hhold] at hpos
      exact absurd hpos (by rw [hnone]; exact Nat.lt_irrefl 0)
    · rw [World.delivered, if_pos hhold]
      exact hnone
  -- Other messages are not among the hold notices of this session.
  · have hdelivered : ({ world with
        store := world.store.append
          ⟨session.disputeId, some session.sessionId,
            .held (some (Store.newestMessageId (world.store.listMessages session.sessionId))), now⟩
        holdNotices := world.holdNotices.filter fun notice => notice.1 != session.sessionId } :
          World).delivered message = world.delivered message := by
      rw [World.delivered, World.delivered]
      split
      · next hhold =>
        rw [List.count_filter]
        have hother : message.sessionId ≠ session.sessionId := fun hid => hours ⟨hhold, hid⟩
        simpa using hother
      · rfl
    refine ⟨h.sole, ?_, ?_, ?_⟩
    · rw [hdelivered]
      exact h.once
    · rw [hdelivered]
      refine fun hpos => (h.kept hpos).imp (fun hgot => ?_) id
      refine Store.hasGot_mono hgot List.prefix_rfl fun hhold => ?_
      refine Store.holds_eq ⟨_, rfl, fun event hevent => ?_⟩
      rw [List.mem_singleton.mp hevent]
      by_contra hheld
      have hheld := Event.isHeld_iff.mp (by simpa using hheld)
      exact hours ⟨hhold, (Option.some.inj hheld.1).symm⟩
    · rw [hdelivered]
      exact h.unsent

/-- What a message that goes out once needs of a call: the gate lets it pass fresh, and it is stored
once a relay accepted it. -/
def Guards (message : Passed) {β : Type} (call : Call β) (oracle : Oracle) (world : World) : Prop :=
  match call with
  | .gate rule other => other = message → oracle.fails = none → world.admits rule other = true →
      world.Fresh message
  | .insertMessage new => new.records message → world.stores oracle new = true
  | _ => True

/-- **Every call** keeps the message from going out twice. -/
theorem performCall (h : world.Once message) (hcounts : world.store.Counts) {β : Type}
    {call : Call β} {oracle : Oracle} (hneeds : Needs thread call world)
    (hguards : Guards message call oracle world) :
    (performCall deployment thread call oracle world).2.Once message := by
  by_cases hmail : call.isMail = true
  · cases call with
    | gate rule other =>
      simp only [Serbero.performCall, World.orFail]
      split
      · exact h
      · next hfails =>
        unfold World.checkGate
        split
        · next hadmits => exact h.passes _ fun hsame => hguards hsame hfails hadmits
        · exact h
    | sendEvent other => exact h.sendEvent hneeds oracle
    | insertMessage new => exact h.insertMessage hcounts hneeds hguards
    | recordHold session now => exact h.recordHold session now oracle
    | _ => cases hmail
  · have hcall : call.isMail = false := by simpa using hmail
    obtain ⟨hmessages, hsending, hsent, hrecording, hnotices⟩ :=
      performCall_mail deployment thread call hcall oracle world
    have hstarts : call.starts = false := by
      cases call <;> first | rfl | cases hcall
    refine h.keep ?_ (fun _ => ?_) hsending hsent hrecording hnotices
    · exact hmessages ▸ List.prefix_rfl
    · exact (performCall_notHeld hstarts hneeds oracle).holds_eq message.sessionId

/-- What happens outside the tasks sends nothing. -/
theorem happen (h : world.Once message) {happening : Happening}
    (hhappen : happen deployment happening world = some later) : later.Once message := by
  obtain ⟨hevents, htraffic⟩ := happen_traffic hhappen
  have hholds : later.store.holds message.sessionId = world.store.holds message.sessionId := by
    rw [Store.holds, Store.holds, hevents]
  rcases htraffic with hsame | ⟨row, -, -, hsame⟩
  · refine h.keep ?_ (fun _ => hholds) (congrArg Traffic.sending hsame)
      (congrArg Traffic.sent hsame) (congrArg Traffic.recording hsame)
      (congrArg Traffic.holdNotices hsame)
    have hmessages : later.store.messages = world.store.messages :=
      congrArg Traffic.messages hsame
    exact hmessages ▸ List.prefix_rfl
  · refine h.keep ?_ (fun _ => hholds) (congrArg Traffic.sending hsame)
      (congrArg Traffic.sent hsame) (congrArg Traffic.recording hsame)
      (congrArg Traffic.holdNotices hsame)
    rw [show later.store.messages = world.store.messages ++ [row] from
      congrArg Traffic.messages hsame]
    exact List.prefix_append _ _

/-- The start of a task sends nothing. -/
theorem launch (h : world.Once message) (hlaunch : launch thread world = some later) :
    later.Once message := by
  obtain ⟨hstore, htraffic⟩ := launch_traffic hlaunch
  refine h.keep ?_ (fun _ => ?_) (congrArg Traffic.sending htraffic)
    (congrArg Traffic.sent htraffic) (congrArg Traffic.recording htraffic)
    (congrArg Traffic.holdNotices htraffic)
  · exact hstore ▸ List.prefix_rfl
  · rw [hstore]

/-- A restart loses no message that a relay accepted before its record. -/
theorem restart (h : world.Once message) (oracle : Oracle)
    (hrecording : ∀ number, (number, message) ∉ world.recording) :
    (restart oracle world).Once message := by
  refine ⟨Nat.zero_le 1, h.once, fun hpos => ?_, fun _ hmem => absurd hmem List.not_mem_nil⟩
  rcases h.kept hpos with hgot | ⟨number, hmem⟩
  · exact Or.inl hgot
  · exact absurd hmem (hrecording number)

/-- Nothing was sent at the start. -/
theorem start (clock : Int) : (World.start clock).Once message := by
  constructor <;> simp [World.start, World.underWay, World.delivered]

end World.Once

end Serbero
