import Serbero.Policy.Grounds
import Serbero.Runtime.Deliveries
import Serbero.Runtime.Lifecycle
import Serbero.Runtime.Turns

/-! # Party reminders

Only a pass of the timers reminds a party, and passes go one at a time. So a party gets one reminder
in a session, after a question, whatever the other tasks do meanwhile. -/

namespace Serbero

open Pool Relation
open Pool.Program

variable {deployment : Deployment} {thread : Thread Task} {kept : Bool}

/-- The reminder of a party. -/
def reminderTo (id : SessionId) (party : Party) : Passed := ⟨id, party, .reminder⟩

/-- The message is a reminder. -/
def Passed.warns (message : Passed) : Bool := message.template == .reminder

/-- The row is a reminder that Serbero sent. -/
def Message.warns (row : Message) : Bool :=
  row.direction == .outbound && row.templateId == some .reminder

/-- Where `kept`, a reminder that a relay accepted is stored, and the process does not stop before. -/
def remindersKept (kept : Bool) : Condition Call Task Oracle Happening World where
  call _ request oracle world :=
    match request with
    | .insertMessage new => !kept || new.templateId != some .reminder || world.stores oracle new
    | _ => true
  launch _ _ _ := true
  happen _ _ := true
  restart _ world := !kept || world.recording.all fun entry => !entry.2.warns

/-- The reminders: the pass that may send them, those on their way, accepted, and stored. -/
structure Warnings where
  ticking : Option Nat
  sending : List (Nat × Passed)
  recording : List (Nat × Passed)
  sent : List Passed
  stored : List Message

/-- The reminders of a world. -/
def World.warnings (world : World) : Warnings :=
  { ticking := world.ticking
    sending := world.sending.filter fun entry => entry.2.warns
    recording := world.recording.filter fun entry => entry.2.warns
    sent := world.sent.filter Passed.warns
    stored := world.store.messages.filter Message.warns }

/-- Serbero asked the party a fact. -/
def Store.Asked (store : Store) (id : SessionId) (party : Party) : Prop :=
  ∃ question ∈ store.messages, question.sessionId = id ∧ question.isQuestionTo party = true

namespace Warnings

variable (warnings : Warnings)

/-- How often the party's reminder is stored. -/
def storedFor (id : SessionId) (party : Party) : Nat :=
  warnings.stored.countP fun row => row.sessionId == id && row.party == party

/-- The thread is the pass of the timers, with these reminders on their way and no other's. -/
structure Stage (number : Nat) (sending recording : List (Nat × Passed)) : Prop where
  ticking : warnings.ticking = some number
  sending : warnings.sending = sending
  recording : warnings.recording = recording

/-- Every reminder under way is the pass's, and no party has two. -/
structure Inv (kept : Bool) : Prop where
  seated : ∀ entry ∈ warnings.sending ++ warnings.recording, warnings.ticking = some entry.1
  once : ∀ id party, warnings.storedFor id party +
    ((warnings.sending ++ warnings.recording).map Prod.snd).count (reminderTo id party) ≤ 1
  traced : kept = true → ∀ id party, warnings.sent.count (reminderTo id party) ≤
    warnings.storedFor id party + (warnings.recording.map Prod.snd).count (reminderTo id party)

end Warnings

/-- The reminders are kept apart, and each follows a question to the party. -/
structure World.Warned (kept : Bool) (world : World) : Prop where
  warnings : world.warnings.Inv kept
  asked : ∀ entry ∈ world.warnings.sending ++ world.warnings.recording,
    world.store.Asked entry.2.sessionId entry.2.party
  about : ∀ (i : Nat) row, world.store.messages[i]? = some row → row.warns = true →
    ∃ j < i, ∃ question, world.store.messages[j]? = some question ∧
      question.sessionId = row.sessionId ∧ question.isQuestionTo row.party = true

/-- The call sends a reminder or stores one, or ends a pass of the timers. -/
def Call.warns {β : Type} : Call β → Bool
  | .gate _ message | .sendEvent message => message.warns
  | .insertMessage new => new.templateId == some .reminder
  | .joinTick => true
  | _ => false

/-- What a task must know before it sends a reminder: it is the pass of the timers, no reminder is
under way, and the party was asked and has none. -/
def Warns (thread : Thread Task) {β : Type} (call : Call β) (world : World) : Prop :=
  match call with
  | .gate _ message => message.warns = true → world.warnings.Stage thread.number [] [] ∧
      world.warnings.storedFor message.sessionId message.party = 0 ∧
        world.store.Asked message.sessionId message.party
  | .sendEvent message => message.warns = true →
      world.warnings.Stage thread.number [(thread.number, message)] []
  | .insertMessage new => new.templateId = some .reminder →
      world.warnings.Stage thread.number []
        [(thread.number, reminderTo new.sessionId new.party)]
  | .joinTick => world.warnings.Stage thread.number [] []
  | _ => True

/-! ## Steps -/

/-- Erasing another message's entry leaves the reminders. -/
theorem filter_erase_of_not_warns {entries : List (Nat × Passed)} {number : Nat} {message : Passed}
    (h : message.warns = false) :
    (entries.erase (number, message)).filter (fun entry => entry.2.warns) =
      entries.filter fun entry => entry.2.warns := by
  rw [← List.erase_filter, List.erase_of_not_mem]
  intro hmem
  have hwarns : message.warns = true := (List.mem_filter.mp hmem).2
  rw [h] at hwarns
  cases hwarns

/-- Storing another message leaves the reminders on their way. -/
theorem recording_endSending_of_not_warns {world : World} {number : Nat} {new : NewMessage}
    (h : (new.templateId == some .reminder) = false) :
    (world.endSending number new).recording.filter (fun entry => entry.2.warns) =
      world.recording.filter fun entry => entry.2.warns := by
  rw [World.endSending, List.filter_filter]
  apply List.filter_congr
  intro entry _
  cases hwarns : entry.2.warns with
  | false => rfl
  | true =>
    rw [Bool.true_and, Bool.or_eq_true]
    right
    cases htemplate : new.templateId with
    | none => rfl
    | some template =>
      rw [Option.all_some, bne_iff_ne]
      intro heq
      rw [htemplate] at h
      rw [heq] at hwarns
      have hreminder : template = .reminder := beq_iff_eq.mp hwarns
      rw [hreminder] at h
      exact absurd h (by decide)

/-- Any other call leaves the reminders as they are. -/
theorem performCall_warnings {β : Type} {call : Call β} (hcall : call.warns = false)
    (oracle : Oracle) (world : World) :
    (performCall deployment thread call oracle world).2.warnings = world.warnings := by
  have hmakes := performCall_makes deployment thread call oracle world
  generalize (performCall deployment thread call oracle world).2 = later at hmakes ⊢
  cases hmakes with
  | @gate rule message hallows =>
    have hother : message.warns = false := hcall
    simp only [World.warnings, List.filter_append, List.filter_singleton, hother]
    simp
  -- A message that warns nobody is no part of the record, wherever it stands.
  | @unsent message =>
    have hother : message.warns = false := hcall
    simp only [World.warnings, filter_erase_of_not_warns hother]
  | @sent message =>
    have hother : message.warns = false := hcall
    simp only [World.warnings, filter_erase_of_not_warns hother, List.filter_append,
      List.filter_singleton, hother]
    simp
  | unstored =>
    simp only [World.warnings]
    rw [recording_endSending_of_not_warns hcall]
    rfl
  | @stored new =>
    have hrow : (new.row (world.store.messages.length + 1)).warns = false := by
      rw [Message.warns, show (new.row _).templateId = new.templateId from rfl,
        show (new.templateId == some .reminder) = false from hcall, Bool.and_false]
    have hstored : (world.store.messages ++ [new.row (world.store.messages.length + 1)]).filter
        Message.warns = world.store.messages.filter Message.warns := by
      rw [List.filter_append, List.filter_cons_of_neg (by rw [hrow]; exact Bool.false_ne_true),
        List.filter_nil, List.append_nil]
    simp only [World.warnings]
    rw [recording_endSending_of_not_warns hcall, hstored]
    rfl
  | joinTick => cases hcall
  | activate =>
    simp only [World.warnings, World.activate, Store.queueForObservers_messages]
    rfl
  | abandon =>
    simp only [World.warnings, World.abandon,
      (Stepped.abandonOpening_spec world.store _ _ _ _ _).2.2.1]
  | handOff hclaim => simp only [World.warnings, (Stepped.claimHandOff_spec hclaim).2.2.2.1]
  | startGuiding hclaim =>
    simp only [World.warnings, World.withStore, (Stepped.claimGuiding_spec hclaim).2.2.2.1]
  | record => simp only [World.warnings, (world.store.record_cases _ _).1]
  | _ => rfl

/-- Any other call adds at most a row that is no reminder. -/
theorem performCall_added {β : Type} {call : Call β} (hcall : call.warns = false)
    (oracle : Oracle) (world : World) :
    ∃ more, (performCall deployment thread call oracle world).2.store.messages =
        world.store.messages ++ more ∧ ∀ row ∈ more, row.warns = false := by
  by_cases hstores : call.stores = true
  · cases call with
    | insertMessage new =>
      obtain ⟨messages, hlater, hmessages⟩ :=
        performCall_insertMessage deployment thread new oracle world
      rw [hlater]
      rcases hmessages with rfl | rfl
      · exact ⟨[], (List.append_nil _).symm, fun row hrow => absurd hrow List.not_mem_nil⟩
      · refine ⟨_, rfl, fun row hrow => ?_⟩
        have htemplate : (new.templateId == some .reminder) = false := hcall
        rw [List.mem_singleton.mp hrow, Message.warns,
          show (new.row _).templateId = new.templateId from rfl, htemplate, Bool.and_false]
    | _ => cases hstores
  · refine ⟨[], ?_, fun row hrow => absurd hrow List.not_mem_nil⟩
    rw [performCall_messages (by simpa using hstores), List.append_nil]

/-- The start of a task leaves the reminders, and a pass of the timers starts where none runs. -/
theorem launch_warnings {world later : World} (h : launch thread world = some later) :
    later.warnings = world.warnings ∨ world.ticking = none ∧ thread.role = .tick ∧
      later.warnings = { world.warnings with ticking := some thread.number } := by
  unfold launch at h
  split at h
  case h_2 hrole =>
    split at h
    · next hfree =>
      cases h
      exact Or.inr ⟨Option.isNone_iff_eq_none.mp hfree, hrole, rfl⟩
    · cases h
  all_goals
    left
    repeat' split at h
    all_goals cases h
    all_goals rfl

/-- What happens outside the tasks leaves the reminders. -/
theorem happen_warnings {happening : Happening} {world later : World}
    (h : happen deployment happening world = some later) :
    later.warnings = world.warnings ∧
      ∃ more, later.store.messages = world.store.messages ++ more ∧
        ∀ row ∈ more, row.warns = false := by
  have hfields : ∀ {messages : List Message},
      later.traffic = { world.traffic with messages := messages } →
        later.warnings = { world.warnings with stored := messages.filter Message.warns } := by
    intro messages hsame
    simp only [World.warnings]
    rw [show later.ticking = world.ticking from congrArg Traffic.ticking hsame,
      show later.sending = world.sending from congrArg Traffic.sending hsame,
      show later.recording = world.recording from congrArg Traffic.recording hsame,
      show later.sent = world.sent from congrArg Traffic.sent hsame,
      show later.store.messages = messages from congrArg Traffic.messages hsame]
  rcases (happen_traffic h).2 with hsame | ⟨row, hinbound, -, hsame⟩
  · refine ⟨hfields hsame, [], ?_, fun row hrow => absurd hrow List.not_mem_nil⟩
    rw [List.append_nil]
    exact congrArg Traffic.messages hsame
  · have hrow : row.warns = false := by
      rw [Message.warns, hinbound]
      rfl
    refine ⟨?_, [row], congrArg Traffic.messages hsame, fun found hfound => ?_⟩
    · rw [hfields hsame, List.filter_append, List.filter_singleton, hrow]
      simp [World.warnings]
    · rw [List.mem_singleton.mp hfound]
      exact hrow

/-- A reminder at the gate: refused, or on its way. -/
theorem gate_warnings (deployment : Deployment) (rule : GateRule) {message : Passed} {world : World}
    (hwarns : message.warns = true) (hstage : world.warnings.Stage thread.number [] [])
    (oracle : Oracle) :
    (∃ failure, (performCall deployment thread (.gate rule message) oracle world).1 =
        .error failure) ∧
      (performCall deployment thread (.gate rule message) oracle world).2.warnings =
        world.warnings ∨
    (performCall deployment thread (.gate rule message) oracle world).1 = .ok () ∧
      (performCall deployment thread (.gate rule message) oracle world).2.warnings =
        { world.warnings with sending := [(thread.number, message)] } := by
  have hsending : (world.sending ++ [(thread.number, message)]).filter
      (fun entry => entry.2.warns) = [(thread.number, message)] := by
    rw [List.filter_append, show world.sending.filter _ = [] from hstage.sending,
      List.filter_singleton, hwarns]
    rfl
  simp only [performCall, World.orFail, World.checkGate]
  split
  · exact Or.inl ⟨⟨_, rfl⟩, rfl⟩
  split
  · right
    refine ⟨rfl, ?_⟩
    simp only [World.warnings, hsending]
  · exact Or.inl ⟨⟨_, rfl⟩, rfl⟩

/-- A reminder that is sent: given up, or about to be stored. -/
theorem sendEvent_warnings (deployment : Deployment) {message : Passed} {world : World}
    (hwarns : message.warns = true)
    (hstage : world.warnings.Stage thread.number [(thread.number, message)] [])
    (oracle : Oracle) :
    (∃ failure, (performCall deployment thread (.sendEvent message) oracle world).1 =
        .error failure) ∧
      (performCall deployment thread (.sendEvent message) oracle world).2.warnings =
        { world.warnings with sending := [] } ∨
    (performCall deployment thread (.sendEvent message) oracle world).1 = .ok () ∧
      (performCall deployment thread (.sendEvent message) oracle world).2.warnings =
        { world.warnings with
          sending := []
          recording := [(thread.number, message)]
          sent := world.warnings.sent ++ [message] } := by
  -- The one reminder that was under way is the one that is sent now.
  have hleft : (world.sending.erase (thread.number, message)).filter
      (fun entry => entry.2.warns) = [] := by
    rw [← List.erase_filter, show world.sending.filter _ = _ from hstage.sending,
      List.erase_cons_head]
  have haccepted : [message].filter Passed.warns = [message] := by
    rw [List.filter_singleton, hwarns]
    rfl
  have hrecording : (world.recording ++ [(thread.number, message)]).filter
      (fun entry => entry.2.warns) = [(thread.number, message)] := by
    rw [List.filter_append, show world.recording.filter _ = _ from hstage.recording,
      List.filter_singleton, hwarns]
    rfl
  simp only [performCall, World.sendEvent]
  split
  · left
    refine ⟨⟨_, rfl⟩, ?_⟩
    simp only [World.warnings, hleft]
  · right
    refine ⟨rfl, ?_⟩
    simp only [World.warnings, hleft, hrecording, List.filter_append, haccepted]

/-- A reminder that is stored, or whose record is lost. -/
theorem insertMessage_warnings (deployment : Deployment) {new : NewMessage} {world : World}
    (hwarns : new.templateId = some .reminder) (hout : new.direction = .outbound)
    (hstage : world.warnings.Stage thread.number []
      [(thread.number, reminderTo new.sessionId new.party)]) (oracle : Oracle) :
    let later := (performCall deployment thread (.insertMessage new) oracle world).2
    (later.store.messages = world.store.messages ∧
      later.warnings = { world.warnings with recording := [] }) ∨
    (later.store.messages =
        world.store.messages ++ [new.row (world.store.messages.length + 1)] ∧
      later.warnings = { world.warnings with
        recording := []
        stored := world.warnings.stored ++ [new.row (world.store.messages.length + 1)] }) := by
  have hended : (world.endSending thread.number new).recording.filter
      (fun entry => entry.2.warns) = [] := by
    -- Ending the send of this row drops the one record that is there.
    have hcomm : (world.endSending thread.number new).recording.filter
        (fun entry => entry.2.warns) = world.warnings.recording.filter fun entry =>
          entry.1 != thread.number ||
            new.templateId.all fun template => entry.2 != ⟨new.sessionId, new.party, template⟩ := by
      rw [World.endSending, World.warnings, List.filter_filter, List.filter_filter]
      apply List.filter_congr
      intro entry _
      exact Bool.and_comm _ _
    rw [hcomm, hstage.recording, hwarns, List.filter_singleton]
    simp [reminderTo]
  have hrow : (new.row (world.store.messages.length + 1)).warns = true := by
    simp [Message.warns, NewMessage.row, hout, hwarns]
  obtain ⟨messages, hlater, rfl | rfl⟩ :=
    performCall_insertMessage deployment thread new oracle world
  · left
    rw [hlater]
    refine ⟨rfl, ?_⟩
    simp only [World.warnings] at hended ⊢
    rw [hended]
    rfl
  · right
    rw [hlater]
    refine ⟨rfl, ?_⟩
    simp only [World.warnings, List.filter_append, List.filter_singleton, hrow] at hended ⊢
    rw [hended]
    rfl

/-- A row more counts for the party it is for. -/
theorem storedFor_append (new : NewMessage) (warnings : Warnings) (number : Int) (id : SessionId)
    (party : Party) :
    (warnings.stored ++ [new.row number]).countP
        (fun row => row.sessionId == id && row.party == party) =
      warnings.storedFor id party +
        [reminderTo new.sessionId new.party].count (reminderTo id party) := by
  have hsame : (new.sessionId == id && new.party == party) =
      (reminderTo new.sessionId new.party == reminderTo id party) := by
    rw [Bool.eq_iff_iff]
    simp [reminderTo]
  rw [List.countP_append, List.countP_singleton, List.count_singleton, ← hsame]
  rfl

namespace World.Warned

variable {world later : World}

/-- A question once asked stays asked. -/
theorem Asked.mono {store grown : Store} {id : SessionId} {party : Party}
    (h : store.Asked id party) (hmessages : store.messages <+: grown.messages) :
    grown.Asked id party := by
  obtain ⟨question, hmem, hquestion⟩ := h
  exact ⟨question, hmessages.subset hmem, hquestion⟩

/-- What is added about reminders follows a question that was there. -/
theorem advance (h : world.Warned kept) {more : List Message}
    (hwarnings : later.warnings.Inv kept)
    (hasked : ∀ entry ∈ later.warnings.sending ++ later.warnings.recording,
      world.store.Asked entry.2.sessionId entry.2.party)
    (hmessages : later.store.messages = world.store.messages ++ more)
    (hmore : ∀ row ∈ more, row.warns = true → world.store.Asked row.sessionId row.party) :
    later.Warned kept where
  warnings := hwarnings
  asked entry hentry := Asked.mono (hasked entry hentry) (hmessages ▸ List.prefix_append _ _)
  about i row hrow hwarns := by
    rw [hmessages] at hrow
    by_cases hlt : i < world.store.messages.length
    · rw [List.getElem?_append_left hlt] at hrow
      obtain ⟨j, hj, question, hquestion, hsame⟩ := h.about i row hrow hwarns
      refine ⟨j, hj, question, ?_, hsame⟩
      rw [hmessages, List.getElem?_append_left (hj.trans hlt)]
      exact hquestion
    · rw [List.getElem?_append_right (Nat.le_of_not_lt hlt)] at hrow
      obtain ⟨question, hmem, hsame⟩ := hmore row (List.mem_of_getElem? hrow) hwarns
      obtain ⟨j, hj, hget⟩ := List.mem_iff_getElem.mp hmem
      refine ⟨j, by omega, question, ?_, hsame⟩
      rw [hmessages, List.getElem?_append_left hj, List.getElem?_eq_getElem hj, hget]

/-- What leaves the reminders alone keeps them. -/
theorem keep (h : world.Warned kept) {more : List Message}
    (hwarnings : later.warnings = world.warnings)
    (hmessages : later.store.messages = world.store.messages ++ more)
    (hmore : ∀ row ∈ more, row.warns = false) : later.Warned kept := by
  refine h.advance (hwarnings ▸ h.warnings) (hwarnings ▸ h.asked) hmessages fun row hrow hwarns => ?_
  rw [hmore row hrow] at hwarns
  cases hwarns

/-- A reminder that passes the gate is the only one of its party. -/
theorem gate (h : world.Warned kept) {rule : GateRule} {message : Passed} (oracle : Oracle)
    (hwarns : message.warns = true) (hknown : Warns thread (.gate rule message) world) :
    (performCall deployment thread (.gate rule message) oracle world).2.Warned kept := by
  obtain ⟨hstage, hnone, hasked⟩ := hknown hwarns
  have hmessages : (Serbero.performCall deployment thread (.gate rule message) oracle
      world).2.store.messages = world.store.messages ++ [] := by
    rw [performCall_messages rfl, List.append_nil]
  have hnothing : ∀ row ∈ ([] : List Message), row.warns = false :=
    fun row hrow => absurd hrow List.not_mem_nil
  rcases gate_warnings deployment rule hwarns hstage oracle with
    ⟨-, hsame⟩ | ⟨-, hpassed⟩
  · exact h.keep hsame hmessages hnothing
  refine h.advance ?_ ?_ hmessages fun row hrow => absurd hrow List.not_mem_nil
  · rw [hpassed]
    refine ⟨?_, fun id party => ?_, h.warnings.traced⟩
    · simp only [hstage.recording, List.append_nil]
      intro entry hentry
      rw [List.mem_singleton.mp hentry]
      exact hstage.ticking
    · simp only [hstage.recording, List.append_nil, List.map_singleton, List.count_singleton]
      have honce := h.warnings.once id party
      -- The one that passes is the party's first: nothing of it is stored.
      by_cases hsame : message = reminderTo id party
      · subst hsame
        have hzero : world.warnings.storedFor id party = 0 := hnone
        rw [beq_self_eq_true]
        change world.warnings.storedFor id party + 1 ≤ 1
        omega
      · have hdiffers : (message == reminderTo id party) = false := beq_eq_false_iff_ne.mpr hsame
        rw [hdiffers]
        change world.warnings.storedFor id party + 0 ≤ 1
        omega
  · rw [hpassed]
    simp only [hstage.recording, List.append_nil]
    intro entry hentry
    rw [List.mem_singleton.mp hentry]
    exact hasked

/-- A reminder that a relay accepted, or that was given up. -/
theorem sendEvent (h : world.Warned kept) {message : Passed} (oracle : Oracle)
    (hwarns : message.warns = true) (hknown : Warns thread (.sendEvent message) world) :
    (performCall deployment thread (.sendEvent message) oracle world).2.Warned kept := by
  have hstage := hknown hwarns
  have hasked : world.store.Asked message.sessionId message.party := by
    refine h.asked (thread.number, message) ?_
    rw [hstage.sending]
    exact List.mem_append_left _ List.mem_cons_self
  have hmessages : (Serbero.performCall deployment thread (.sendEvent message) oracle
      world).2.store.messages = world.store.messages ++ [] := by
    rw [performCall_messages rfl, List.append_nil]
  have hinv := h.warnings
  rcases sendEvent_warnings deployment hwarns hstage oracle with
    ⟨-, hgiven⟩ | ⟨-, haccepted⟩
  -- The relay refuses it: what was being sent is forgotten, and nothing was told.
  · refine h.advance ?_ ?_ hmessages fun row hrow => absurd hrow List.not_mem_nil
    · rw [hgiven]
      refine ⟨?_, fun id party => ?_, hinv.traced⟩
      · simp [hstage.recording]
      · have honce := hinv.once id party
        simp only [hstage.recording, List.append_nil, List.map_nil, List.count_nil]
        change world.warnings.storedFor id party + 0 ≤ 1
        omega
    · rw [hgiven]
      simp [hstage.recording]
  -- The relay accepts it: what was being sent is now being recorded.
  · refine h.advance ?_ ?_ hmessages fun row hrow => absurd hrow List.not_mem_nil
    · rw [haccepted]
      refine ⟨?_, fun id party => ?_, fun hkept id party => ?_⟩
      · intro entry hentry
        rw [List.mem_singleton.mp hentry]
        exact hstage.ticking
      · have honce := hinv.once id party
        rw [hstage.sending, hstage.recording] at honce
        exact honce
      · have htraced := hinv.traced hkept id party
        rw [hstage.recording, List.map_nil, List.count_nil] at htraced
        simp only [List.count_append, List.map_singleton]
        change _ ≤ world.warnings.storedFor id party + _
        omega
    · rw [haccepted]
      intro entry hentry
      rw [List.mem_singleton.mp hentry]
      exact hasked

/-- A reminder that is stored, or whose record is lost. -/
theorem insertMessage (h : world.Warned kept) {new : NewMessage} {oracle : Oracle}
    (hwarns : new.templateId = some .reminder) (hout : new.direction = .outbound)
    (hknown : Warns thread (.insertMessage new) world)
    (hcond : (remindersKept kept).call thread (.insertMessage new) oracle world = true) :
    (performCall deployment thread (.insertMessage new) oracle world).2.Warned kept := by
  have hstage := hknown hwarns
  have hasked : world.store.Asked new.sessionId new.party := by
    refine h.asked (thread.number, reminderTo new.sessionId new.party) ?_
    rw [hstage.recording]
    exact List.mem_append_right _ List.mem_cons_self
  have hinv := h.warnings
  -- The row is stored, or the message was sent and its record is lost.
  rcases insertMessage_warnings deployment hwarns hout hstage oracle with
    ⟨hmessages, hlost⟩ | ⟨hmessages, hstored⟩
  -- Where the condition keeps records, nothing that was sent is lost.
  · have hnever : kept = true → False := by
      intro hkept
      have hstores : world.stores oracle new = true := by
        simpa [remindersKept, hkept, hwarns] using hcond
      have hgrown : (Serbero.performCall deployment thread (.insertMessage new) oracle
          world).2.store.messages = _ := messages_of_stores hstores
      rw [hmessages] at hgrown
      simp at hgrown
    refine h.advance ?_ ?_ (hmessages.trans (List.append_nil _).symm)
      fun row hrow => absurd hrow List.not_mem_nil
    · rw [hlost]
      refine ⟨?_, fun id party => ?_, fun hkept => absurd hkept hnever⟩
      · simp [hstage.sending]
      · have honce := hinv.once id party
        simp only [hstage.sending, List.append_nil, List.map_nil, List.count_nil]
        change world.warnings.storedFor id party + 0 ≤ 1
        omega
    · rw [hlost]
      simp [hstage.sending]
  -- What was being recorded becomes what is stored: the sum for this party stays the same.
  · have hcount := storedFor_append new world.warnings (world.store.messages.length + 1)
    refine h.advance ?_ ?_ hmessages ?_
    · rw [hstored]
      refine ⟨?_, fun id party => ?_, fun hkept id party => ?_⟩
      · simp [hstage.sending]
      · have honce := hinv.once id party
        rw [hstage.sending, hstage.recording] at honce
        simp only [Warnings.storedFor, hcount, hstage.sending, List.append_nil, List.map_nil,
          List.count_nil, Nat.add_zero]
        exact honce
      · have htraced := hinv.traced hkept id party
        rw [hstage.recording] at htraced
        simp only [Warnings.storedFor, hcount, List.map_nil, List.count_nil, Nat.add_zero]
        exact htraced
    · rw [hstored]
      simp [hstage.sending]
    · intro row hmem _
      rw [List.mem_singleton.mp hmem]
      exact hasked

/-- **Every call** keeps the reminders apart. -/
theorem performCall (h : world.Warned kept) {β : Type} {call : Call β} {oracle : Oracle}
    (hneeds : Needs thread call world) (hknown : Warns thread call world)
    (hcond : (remindersKept kept).call thread call oracle world = true) :
    (performCall deployment thread call oracle world).2.Warned kept := by
  by_cases hcall : call.warns = true
  · cases call with
    | gate rule message => exact h.gate oracle hcall hknown
    | sendEvent message => exact h.sendEvent oracle hcall hknown
    | insertMessage new => exact h.insertMessage (beq_iff_eq.mp hcall) hneeds hknown hcond
    | joinTick =>
      -- The pass ends with no reminder under way.
      refine h.advance ⟨?_, h.warnings.once, h.warnings.traced⟩ h.asked (List.append_nil _).symm
        fun row hrow => absurd hrow List.not_mem_nil
      intro entry hentry
      have hentry : entry ∈ world.warnings.sending ++ world.warnings.recording := hentry
      have hstage : world.warnings.Stage thread.number [] [] := hknown
      rw [hstage.sending, hstage.recording] at hentry
      exact absurd hentry List.not_mem_nil
    | _ => cases hcall
  · have hother : call.warns = false := by simpa using hcall
    have hadded : ∃ more, (Serbero.performCall deployment thread call oracle
        world).2.store.messages = world.store.messages ++ more ∧ ∀ row ∈ more, row.warns = false :=
      performCall_added hother oracle world
    obtain ⟨more, hmessages, hmore⟩ := hadded
    exact h.keep (performCall_warnings hother oracle world) hmessages hmore

/-- The start of a task takes no reminder away. -/
theorem launch (h : world.Warned kept) (hlaunch : Serbero.launch thread world = some later) :
    later.Warned kept := by
  have hstore : later.store = world.store := (launch_traffic hlaunch).1
  have hmessages : later.store.messages = world.store.messages ++ [] := by
    rw [hstore, List.append_nil]
  rcases launch_warnings hlaunch with hsame | ⟨hfree, -, hpass⟩
  · exact h.keep hsame hmessages fun row hrow => absurd hrow List.not_mem_nil
  · refine h.advance ?_ (by rw [hpass]; exact h.asked) hmessages
      fun row hrow => absurd hrow List.not_mem_nil
    rw [hpass]
    refine ⟨fun entry hentry => ?_, h.warnings.once, h.warnings.traced⟩
    -- Where no pass runs, no reminder is under way.
    have hseated : world.ticking = some entry.1 := h.warnings.seated entry hentry
    rw [hfree] at hseated
    cases hseated

/-- What happens outside the tasks sends no reminder. -/
theorem happen (h : world.Warned kept) {happening : Happening}
    (hhappen : Serbero.happen deployment happening world = some later) : later.Warned kept := by
  obtain ⟨hwarnings, more, hmessages, hmore⟩ := happen_warnings hhappen
  exact h.keep hwarnings hmessages hmore

/-- A restart loses no reminder that a relay accepted before its record. -/
theorem restart (h : world.Warned kept) (oracle : Oracle)
    (hcond : (remindersKept kept).restart oracle world = true) :
    (restart oracle world).Warned kept := by
  refine h.advance ⟨?_, fun id party => ?_, fun hkept id party => ?_⟩ ?_ (List.append_nil _).symm
    fun row hrow => absurd hrow List.not_mem_nil
  · exact fun entry hentry => absurd hentry List.not_mem_nil
  · have honce := h.warnings.once id party
    change world.warnings.storedFor id party + 0 ≤ 1
    omega
  · have htraced := h.warnings.traced hkept id party
    have hnone : world.warnings.recording = [] := by
      change world.recording.filter _ = []
      rw [List.filter_eq_nil_iff]
      intro entry hentry hwarns
      simp only [remindersKept, hkept, Bool.not_true, Bool.false_or] at hcond
      have hnot := List.all_eq_true.mp hcond entry hentry
      rw [hwarns] at hnot
      cases hnot
    rw [hnone, List.map_nil, List.count_nil] at htraced
    exact htraced
  · exact fun entry hentry => absurd hentry List.not_mem_nil

/-- Nothing was reminded at the start. -/
theorem start (clock : Int) : (World.start clock).Warned kept := by
  refine ⟨⟨?_, fun _ _ => Nat.zero_le 1, fun _ _ _ => Nat.le_refl 0⟩, ?_, ?_⟩
  · exact fun entry hentry => absurd hentry List.not_mem_nil
  · exact fun entry hentry => absurd hentry List.not_mem_nil
  · exact fun i row hrow => by simp [World.start, Store.empty] at hrow

end World.Warned

/-! ## One pass at a time -/

/-- Only the pass of the timers sends a reminder. -/
theorem ticking_of_warns {β : Type} {call : Call β} {world : World} (hcall : call.warns = true)
    (hknown : Warns thread call world) : world.ticking = some thread.number := by
  cases call with
  | gate rule message => exact (hknown hcall).1.ticking
  | sendEvent message => exact (hknown hcall).ticking
  | insertMessage new => exact (hknown (beq_iff_eq.mp hcall)).ticking
  | joinTick => exact Warnings.Stage.ticking hknown
  | _ => cases hcall

/-- What holds of reminders besides the contract: nobody else touches them while a pass runs. -/
def reminderExtension (deployment : Deployment) (kept : Bool) :
    Extension (contract deployment (remindersKept kept)) where
  inv := World.Warned kept
  pre thread call world := Warns thread call world
  rely thread before after :=
    before.ticking = some thread.number → after.warnings = before.warnings
  rely_refl _ _ _ := rfl
  rely_trans _ _ h h' hticking :=
    (h' ((congrArg Warnings.ticking (h hticking)).trans hticking)).trans (h hticking)
  call_inv _ h hneeds hknown hcond := h.performCall hneeds hknown hcond
  call_rely _ _ _ hknown _ hother hticking := by
    refine performCall_warnings ?_ _ _
    by_contra hcall
    have hthis := ticking_of_warns (by simpa using hcall) hknown
    rw [hticking, Option.some.injEq] at hthis
    exact hother hthis
  launch_inv _ h _ hlaunch := h.launch hlaunch
  launch_rely _ _ _ hlaunch hticking := by
    rcases launch_warnings hlaunch with hsame | ⟨hfree, -⟩
    · exact hsame
    · rw [hfree] at hticking
      cases hticking
  happen_inv _ h _ hhappen := h.happen hhappen
  happen_rely _ _ _ hhappen _ := (happen_warnings hhappen).1
  restart_inv _ h hcond := h.restart _ hcond

/-- The thread is the pass of the timers, with these reminders on their way; the parties were asked
and have no reminder. -/
structure World.Ready (number : Nat) (id : SessionId) (parties : List Party)
    (sending recording : List (Nat × Passed)) (world : World) : Prop where
  stage : world.warnings.Stage number sending recording
  due : ∀ party ∈ parties, world.warnings.storedFor id party = 0 ∧ world.store.Asked id party

variable {id : SessionId} {parties : List Party} {sending recording : List (Nat × Passed)}

/-- Who is due is read off the reminders and the messages. -/
theorem World.Ready.of_warnings {number : Nat} {world later : World}
    (h : world.Ready number id parties sending recording)
    (hwarnings : later.warnings = world.warnings)
    (hmessages : world.store.messages <+: later.store.messages) :
    later.Ready number id parties sending recording where
  stage := hwarnings ▸ h.stage
  due party hparty := by
    obtain ⟨hnone, hasked⟩ := h.due party hparty
    exact ⟨hwarnings ▸ hnone, World.Warned.Asked.mono hasked hmessages⟩

/-- The call touches no reminder. -/
def unwarned {β : Type} (call : Call β) : Prop := call.warns = false

/-- What the pass knows of the reminders lasts until it touches them. -/
theorem lasting_ready : (reminderExtension deployment kept).news.Lasting thread unwarned
    (World.Ready thread.number id parties sending recording) := by
  constructor
  · intro world later h hrely
    exact h.of_warnings (hrely.2 h.stage.ticking) hrely.1.follows.log.messages
  · intro β call oracle world hcall _ _ _ h
    refine h.of_warnings (performCall_warnings hcall oracle world) ?_
    obtain ⟨more, hmessages, -⟩ := performCall_added hcall oracle world
    exact ⟨more, hmessages.symm⟩

/-- A call that touches no reminder has nothing to know. -/
theorem suffices_unwarned (fact : World → Prop) :
    Suffices (reminderExtension deployment kept) thread unwarned fact := by
  intro β call world hcall _ _
  have hnot : ∀ {flag : Bool} {fact : Prop}, flag = false → flag = true → fact := by
    intro flag fact hfalse htrue
    rw [hfalse] at htrue
    cases htrue
  cases call with
  | gate rule message => exact hnot hcall
  | sendEvent message => exact hnot hcall
  | insertMessage new => exact fun htemplate => hnot hcall (beq_iff_eq.mpr htemplate)
  | joinTick => cases hcall
  | _ => trivial

/-! ## Everything else -/

/-- A template that is no reminder may be written. -/
theorem send_unwarned {id : SessionId} {party : Party} {template : Template}
    (hother : template ≠ .reminder) : MaySend deployment unwarned id party template := by
  intro β call hsends
  cases call with
  | gate rule message =>
    rw [show message = _ from hsends]
    exact beq_eq_false_iff_ne.mpr hother
  | sendEvent message =>
    rw [show message = _ from hsends]
    exact beq_eq_false_iff_ne.mpr hother
  | insertMessage new =>
    obtain ⟨-, -, -, htemplate, -⟩ := hsends
    change (new.templateId == some .reminder) = false
    rw [htemplate]
    exact beq_eq_false_iff_ne.mpr fun heq => hother (Option.some.inj heq)
  | _ => cases hsends

/-- What the solvers are told is no reminder to a party. -/
theorem tell_unwarned (dispute : DisputeId) (notification : String) :
    MayTell unwarned dispute notification := by
  intro β call htells
  cases call <;> first | rfl | cases htells

/-- Briefs and the queries behind them remind nobody. -/
theorem briefs_unwarned (deployment : Deployment) : AllowsBriefs deployment unwarned where
  query {_ call} hquery := by cases call <;> first | rfl | cases hquery
  briefs {_ call} hbriefs := by
    rcases hbriefs with ⟨dispute, notification, -, htells⟩ | hbriefs
    · exact tell_unwarned dispute notification htells
    · cases call <;> first | rfl | cases hbriefs

/-- Nor does a closing. -/
theorem close_unwarned (deployment : Deployment) : MayClose deployment unwarned where
  lock := rfl
  unlock := rfl
  closeChat _ := rfl
  thank _ _ := send_unwarned (by decide)
  report _ := tell_unwarned _ _
  finished _ _ _ _ := rfl

/-- Nor an opening that is given up. -/
theorem giveUp_unwarned (dispute : DisputeId) : MayGiveUp unwarned dispute :=
  ⟨tell_unwarned _ _, fun _ => rfl⟩

/-- Nor one that goes on: it writes the openers. -/
theorem consider_unwarned (deployment : Deployment) : MayConsider deployment unwarned where
  insert _ _ _ _ := rfl
  openChat _ := rfl
  closeChat _ := rfl
  greet id opener hopener := by
    refine send_unwarned ?_
    simp only [openers, List.mem_cons, List.not_mem_nil, or_false] at hopener
    rcases hopener with rfl | rfl <;> decide
  abandon _ _ _ _ := rfl
  activate _ _ _ := rfl
  started _ := tell_unwarned _ _
  opened _ _ _ := rfl
  giveUp := giveUp_unwarned
  claim _ _ _ := rfl
  take _ := rfl
  notOpened _ _ _ := rfl
  release _ := rfl

/-- The notifications go to the solvers. -/
theorem notify_unwarned : MayNotify unwarned :=
  ⟨fun _ _ _ => tell_unwarned _ _, fun _ _ => rfl, fun _ _ => rfl, fun _ => rfl⟩

/-- The guides are no reminders. -/
theorem guide_unwarned (id : SessionId) : MayGuide deployment unwarned id := by
  intro path entry hentry
  refine send_unwarned ?_
  cases path <;> simp only [guides, List.mem_cons, List.not_mem_nil, or_false] at hentry <;>
    rcases hentry with rfl | rfl <;> decide

/-- What a turn writes is no reminder. -/
theorem turn_unwarned (id : SessionId) : MayTurn deployment unwarned id where
  ask party template hasked := send_unwarned (by rintro rfl; exact absurd hasked (by decide))
  handOver _ := send_unwarned (by decide)
  guide := guide_unwarned id
  hold _ := send_unwarned (by decide)
  handOff _ _ _ _ _ := rfl
  startGuiding _ _ _ _ := rfl
  recordHold _ _ _ := rfl
  setLanguage _ _ _ := rfl
  countRound _ _ _ := rfl
  evaluation _ _ := rfl
  strike _ _ _ _ _ := rfl

/-- A task that is no pass of the timers. -/
theorem runs_unwarned {task : Task} (htick : task ≠ .tick) : MayRun deployment unwarned task := by
  cases task with
  | consider dispute => exact consider_unwarned deployment
  | judgeChecks started => exact ⟨consider_unwarned deployment, rfl⟩
  | turn id => exact ⟨turn_unwarned id, fun _ => rfl⟩
  | tick => exact absurd rfl htick
  | handleEvent dispute => exact notify_unwarned
  | remind renotifyAfter => exact notify_unwarned
  | finish dispute status byParties => exact close_unwarned deployment
  | finishPending => exact close_unwarned deployment
  | resume => exact fun _ => rfl

/-! ## The pass -/

/-- A part of the pass that touches no reminder. -/
theorem keeps_ready {α : Type} {program : Daemon α} (h : Says deployment thread unwarned program) :
    (reminderExtension deployment kept).news.Keeps thread
      (World.Ready thread.number id parties sending recording) program :=
  keeps_of_says lasting_ready (suffices_unwarned _) h

/-- A party less is due. -/
theorem World.Ready.tail {number : Nat} {party : Party} {world : World}
    (h : world.Ready number id (party :: parties) sending recording) :
    world.Ready number id parties sending recording :=
  ⟨h.stage, fun other hother => h.due other (List.mem_cons_of_mem _ hother)⟩

/-- A step about a party's reminder leaves the others due. -/
theorem World.Ready.of_due {number : Nat} {world later : World}
    {sending' recording' : List (Nat × Passed)}
    (h : world.Ready number id parties sending recording)
    (hmessages : world.store.messages <+: later.store.messages)
    (hstage : later.warnings.Stage number sending' recording')
    (hstored : ∀ other ∈ parties,
      later.warnings.storedFor id other = world.warnings.storedFor id other) :
    later.Ready number id parties sending' recording' where
  stage := hstage
  due other hother := by
    obtain ⟨hnone, hasked⟩ := h.due other hother
    exact ⟨(hstored other hother).trans hnone, World.Warned.Asked.mono hasked hmessages⟩

/-- The party's reminder at the gate. -/
theorem World.Ready.gate {party : Party} {rule : GateRule} {world : World}
    (h : world.Ready thread.number id (party :: parties) [] []) (oracle : Oracle) :
    (performCall deployment thread (.gate rule (reminderTo id party)) oracle world).2.Ready
      thread.number id parties
      ((performCall deployment thread (.gate rule (reminderTo id party)) oracle
        world).1.toOption.elim [] fun _ => [(thread.number, reminderTo id party)]) [] := by
  have hmessages : world.store.messages <+: (performCall deployment thread
      (.gate rule (reminderTo id party)) oracle world).2.store.messages := by
    exact ⟨[], by rw [List.append_nil, performCall_messages rfl]⟩
  have hwarns : (reminderTo id party).warns = true := rfl
  rcases gate_warnings deployment rule hwarns h.stage oracle with
    ⟨⟨failure, hfailed⟩, hsame⟩ | ⟨hpassed, hadded⟩
  · rw [hfailed]
    exact h.tail.of_due hmessages (hsame ▸ h.stage) fun _ _ => by rw [hsame]
  · rw [hpassed]
    refine h.tail.of_due hmessages ?_ fun _ _ => by rw [hadded]; rfl
    rw [hadded]
    exact ⟨h.stage.ticking, rfl, h.stage.recording⟩

/-- The party's reminder at the relays. -/
theorem World.Ready.sendEvent {party : Party} {world : World}
    (h : world.Ready thread.number id parties [(thread.number, reminderTo id party)] [])
    (oracle : Oracle) :
    (performCall deployment thread (.sendEvent (reminderTo id party)) oracle world).2.Ready
      thread.number id parties []
      ((performCall deployment thread (.sendEvent (reminderTo id party)) oracle
        world).1.toOption.elim [] fun _ => [(thread.number, reminderTo id party)]) := by
  have hmessages : world.store.messages <+: (performCall deployment thread
      (.sendEvent (reminderTo id party)) oracle world).2.store.messages := by
    exact ⟨[], by rw [List.append_nil, performCall_messages rfl]⟩
  have hwarns : (reminderTo id party).warns = true := rfl
  rcases sendEvent_warnings deployment hwarns h.stage oracle with
    ⟨⟨failure, hfailed⟩, hgiven⟩ | ⟨hsent, haccepted⟩
  · rw [hfailed]
    refine h.of_due hmessages ?_ fun _ _ => by rw [hgiven]; rfl
    rw [hgiven]
    exact ⟨h.stage.ticking, rfl, h.stage.recording⟩
  · rw [hsent]
    refine h.of_due hmessages ?_ fun _ _ => by rw [haccepted]; rfl
    rw [haccepted]
    exact ⟨h.stage.ticking, rfl, rfl⟩

/-- The party's reminder at the store. -/
theorem World.Ready.insertMessage {new : NewMessage} {world : World}
    (h : world.Ready thread.number new.sessionId parties []
      [(thread.number, reminderTo new.sessionId new.party)])
    (hwarns : new.templateId = some .reminder) (hout : new.direction = .outbound)
    (hparty : new.party ∉ parties) (oracle : Oracle) :
    (performCall deployment thread (.insertMessage new) oracle world).2.Ready
      thread.number new.sessionId parties [] [] := by
  rcases insertMessage_warnings deployment hwarns hout h.stage oracle with
    ⟨hmessages, hlost⟩ | ⟨hmessages, hstored⟩
  · refine h.of_due (hmessages ▸ List.prefix_rfl) ?_ fun _ _ => by rw [hlost]; rfl
    rw [hlost]
    exact ⟨h.stage.ticking, h.stage.sending, rfl⟩
  · refine h.of_due (hmessages ▸ List.prefix_append _ _) ?_ fun other hother => ?_
    · rw [hstored]
      exact ⟨h.stage.ticking, h.stage.sending, rfl⟩
    · rw [hstored]
      have hdiffers : reminderTo new.sessionId new.party ≠ reminderTo new.sessionId other := by
        intro heq
        have hsame : new.party = other := congrArg Passed.party heq
        exact hparty (hsame ▸ hother)
      rw [Warnings.storedFor, storedFor_append, List.count_singleton,
        beq_eq_false_iff_ne.mpr hdiffers]
      rfl

/-- Sending a rendered reminder to a party that is due: while it is under way, the others stay due. -/
theorem sendReminder_spec (session : Session) {message : Outbound}
    (hreminder : message.template = .reminder) (hparty : message.party ∉ parties) :
    (reminderExtension deployment kept).news.Triple thread
      (World.Ready thread.number session.sessionId (message.party :: parties) [] [])
      (sendWhileMediating session message)
      fun _ => World.Ready thread.number session.sessionId parties [] [] := by
  obtain ⟨party, text, template, lang⟩ := message
  cases hreminder
  -- The same row as it goes through the gate, the relay and the store.
  let passed := reminderTo session.sessionId party
  have hgate : (reminderExtension deployment kept).news.Triple thread
      (World.Ready thread.number session.sessionId (party :: parties) [] [])
      (perform (.gate .mediating passed)) fun result =>
        World.Ready thread.number session.sessionId parties
          (result.toOption.elim [] fun _ => [(thread.number, passed)]) [] := by
    refine .perform lasting_ready.rely (fun world _ hready _ => ?_) ?_
    · exact ⟨hready.stage, hready.due party List.mem_cons_self⟩
    · intro world oracle later _ hready _ hrely _
      exact lasting_ready.rely (hready.gate oracle) hrely
  have hsend : (reminderExtension deployment kept).news.Triple thread
      (World.Ready thread.number session.sessionId parties [(thread.number, passed)] [])
      (perform (.sendEvent passed)) fun result =>
        World.Ready thread.number session.sessionId parties []
          (result.toOption.elim [] fun _ => [(thread.number, passed)]) := by
    refine .perform lasting_ready.rely (fun world _ hready _ => hready.stage) ?_
    intro world oracle later _ hready _ hrely _
    have hnext : (performCall deployment thread (.sendEvent passed) oracle world).2.Ready
        thread.number session.sessionId parties []
        ((performCall deployment thread (.sendEvent passed) oracle world).1.toOption.elim []
          fun _ => [(thread.number, passed)]) := hready.sendEvent oracle
    exact lasting_ready.rely hnext hrely
  have hinsert : ∀ new : NewMessage, new.sessionId = session.sessionId → new.party = party →
      new.templateId = some .reminder → new.direction = .outbound →
      (reminderExtension deployment kept).news.Triple thread
        (World.Ready thread.number session.sessionId parties [] [(thread.number, passed)])
        (perform (.insertMessage new)) fun _ =>
          World.Ready thread.number session.sessionId parties [] [] := by
    rintro new hid rfl hwarns hout
    simp only [passed, ← hid]
    refine .perform lasting_ready.rely (fun world _ hready _ => hready.stage) ?_
    intro world oracle later _ hready _ hrely _
    have hnext : (performCall deployment thread (.insertMessage new) oracle world).2.Ready
        thread.number new.sessionId parties [] [] :=
      hready.insertMessage hwarns hout hparty oracle
    exact lasting_ready.rely hnext hrely
  -- The three calls in order; each hands its stage on to the next.
  refine Spec.Triple.bind _ (keeps_ready (.perform rfl fun _ _ => trivial)) (fun createdAt => ?_)
    fun _ _ _ hready => hready.tail
  refine Spec.Triple.bind _ hgate (fun _ => ?_) fun _ _ _ hready => hready
  refine Spec.Triple.bind _ hsend (fun _ => ?_) fun _ _ _ hready => hready
  refine Spec.Triple.bind _ (hinsert _ rfl rfl rfl rfl) (fun _ => ?_) fun _ _ _ hready => hready
  exact .done lasting_ready.rely fun _ _ hready => hready

/-- Reminding a party that is due. -/
theorem remind_spec (session : Session) {party : Party} (hparty : party ∉ parties) :
    (reminderExtension deployment kept).news.Triple thread
      (World.Ready thread.number session.sessionId (party :: parties) [] [])
      (sendTemplate deployment session party .reminder)
      fun _ => World.Ready thread.number session.sessionId parties [] [] := by
  refine Spec.Triple.bind _ (keeps_ready (says_query (briefs_unwarned deployment).reports rfl))
    (fun withIntro => ?_) fun _ _ _ hready => hready.tail
  unfold renderFor
  simp only []
  generalize languageOf deployment session party = lang
  cases deployment.render lang .reminder withIntro session.amount with
  | error failure =>
    exact (Spec.Keeps.raise lasting_ready failure).consequence (fun _ _ hready => hready.tail)
      fun _ _ _ hready => hready
  | ok text =>
    have hreminder : (⟨party, text, .reminder, lang⟩ : Outbound).template = .reminder := rfl
    exact sendReminder_spec session hreminder hparty

/-- The parties that are due are reminded one after the other. -/
theorem forEach_spec (session : Session) (hnodup : parties.Nodup) :
    (reminderExtension deployment kept).news.Triple thread
      (World.Ready thread.number session.sessionId parties [] [])
      (forEach (fun party => sendTemplate deployment session party .reminder) parties)
      fun _ => World.Ready thread.number session.sessionId [] [] [] := by
  induction parties with
  | nil => exact .done lasting_ready.rely fun _ _ hready => hready
  | cons party rest ih =>
    obtain ⟨hparty, hrest⟩ := List.nodup_cons.mp hnodup
    refine Spec.Triple.bind _ (remind_spec session hparty) (fun _ => ih hrest) ?_
    exact fun _ world _ hready => ⟨hready.stage, fun _ hnone => absurd hnone List.not_mem_nil⟩

/-- The pass of the timers, with no reminder on its way. -/
def World.Resting (number : Nat) (world : World) : Prop := world.warnings.Stage number [] []

/-- A pass with no reminder on its way is ready for any session, with nobody due yet. -/
theorem ready_of_resting {number : Nat} {world : World} (h : world.Resting number)
    (id : SessionId) : world.Ready number id [] [] [] :=
  ⟨h, fun _ hnone => absurd hnone List.not_mem_nil⟩

/-- It rests until it touches one. -/
theorem lasting_resting : (reminderExtension deployment kept).news.Lasting thread unwarned
    (World.Resting thread.number) := by
  have hready : (reminderExtension deployment kept).news.Lasting thread unwarned
    (World.Ready thread.number 0 [] [] []) := lasting_ready
  exact ⟨fun h hrely => (hready.rely (ready_of_resting h 0) hrely).stage,
    fun hcall hinv hpre hcond h => (hready.call hcall hinv hpre hcond (ready_of_resting h 0)).stage⟩

/-- Who is to be reminded was asked, and has no reminder. -/
theorem due_of_remind {store : Store} {session : Session} {history : List Event} {now : Int}
    {timeouts : Timeouts}
    (h : (clocks session (store.listMessages session.sessionId) history now).check timeouts =
      .remind parties) :
    parties.Nodup ∧ ∀ party ∈ parties, store.Asked session.sessionId party ∧
      ∀ row ∈ store.messages, row.sessionId = session.sessionId →
        row.isSent party .reminder = false := by
  obtain ⟨hnodup, hdue⟩ := Clocks.of_check_remind h
  refine ⟨hnodup, fun party hparty => ?_⟩
  obtain ⟨asked, hasked, hnone⟩ := hdue party hparty
  have hclock : (clocks session (store.listMessages session.sessionId) history now).party party =
      partyClock (store.listMessages session.sessionId) party := by cases party <;> rfl
  rw [hclock] at hasked hnone
  constructor
  · obtain ⟨question, hquestion, -⟩ := Option.map_eq_some_iff.mp hasked
    obtain ⟨hmem, hto⟩ := List.mem_filter.mp (LastOf.mem_of_maxByKey hquestion)
    obtain ⟨hrow, hid⟩ := Store.mem_listMessages.mp hmem
    exact ⟨question, hrow, hid, hto⟩
  · intro row hrow hid
    by_contra hsent
    have hempty := LastOf.maxByKey_eq_none.mp (Option.map_eq_none_iff.mp hnone)
    have hmem : row ∈ store.listMessages session.sessionId := Store.mem_listMessages.mpr ⟨hrow, hid⟩
    have hnot := List.filter_eq_nil_iff.mp hempty row hmem
    simp only [Message.isSent, Bool.not_eq_false, Bool.and_eq_true, beq_iff_eq] at hsent
    apply hnot
    simp [Message.isTo, hsent.1.1, hsent.1.2, hsent.2]

/-- The timers of a session. -/
theorem time_spec (session : Session) (now : Int) :
    (reminderExtension deployment kept).news.Keeps thread (World.Resting thread.number)
      (tickSession deployment session now) := by
  have hbriefs := briefs_unwarned deployment
  let known (read : List Message × List Event) (world : World) : Prop :=
    ∀ picked, (clocks session read.1 read.2 now).check
      ⟨deployment.settings.responseTimeout, deployment.settings.selfResolutionTimeout,
        deployment.settings.handoffGrace⟩ = .remind picked →
      picked.Nodup ∧ world.Ready thread.number session.sessionId picked [] []
  have hread : (reminderExtension deployment kept).news.Learns thread (World.Resting thread.number)
      (perform (.read fun store =>
        (store.listMessages session.sessionId, store.listEvents session.disputeId))) known := by
    let query (store : Store) :=
      (store.listMessages session.sessionId, store.listEvents session.disputeId)
    -- A read that does not fail gives the rows that are stored at that instant.
    have hcall : unwarned (Call.read query) := rfl
    refine .perform lasting_resting.rely (fun _ _ _ => trivial) ?_
    intro world oracle later hinv hresting hcond hrely _
    refine ⟨lasting_resting.rely (lasting_resting.call hcall hinv trivial hcond hresting) hrely, ?_⟩
    intro read hvalue picked hpicked
    change (world.orFail oracle (.ok (query world.store), world.look thread.number)).1 =
      .ok read at hvalue
    have hread : query world.store = read := by
      unfold World.orFail at hvalue
      split at hvalue
      · cases hvalue
      · exact Except.ok.inj hvalue
    subst hread
    obtain ⟨hnodup, hdue⟩ := due_of_remind hpicked
    have hready : world.Ready thread.number session.sessionId picked [] [] := by
      refine ⟨hresting, fun party hparty => ⟨?_, (hdue party hparty).1⟩⟩
      -- The clocks name no party that was reminded before, so nothing of that kind is stored.
      rw [Warnings.storedFor, List.countP_eq_zero]
      intro row hrow hours
      obtain ⟨hmem, hwarns⟩ := List.mem_filter.mp hrow
      simp only [Message.warns, Bool.and_eq_true, beq_iff_eq] at hours hwarns
      have hnot := (hdue party hparty).2 row hmem hours.1
      rw [Message.isSent, hwarns.1, hwarns.2, hours.2] at hnot
      simp at hnot
    exact ⟨hnodup, lasting_ready.rely (lasting_ready.call hcall hinv trivial hcond hready) hrely⟩
  refine Spec.Triple.bind _ hread (fun read => ?_) fun _ _ _ hknown => hknown.1
  obtain ⟨messages, history⟩ := read
  have hkeeps : ∀ {program : Daemon Unit}, Says deployment thread unwarned program →
      (reminderExtension deployment kept).news.Keeps thread (World.Resting thread.number) program :=
    fun hsays => keeps_of_says lasting_resting (suffices_unwarned _) hsays
  simp only []
  split
  · have hdone : Says deployment thread unwarned (.done () : Daemon Unit) := trivial
    exact (hkeeps hdone).consequence (fun _ _ hknown => hknown.1) fun _ _ _ hresting => hresting
  · next picked hpicked =>
    intro world hinv hknown
    obtain ⟨hnodup, hready⟩ := hknown.2 _ rfl picked hpicked
    exact (forEach_spec session hnodup world hinv hready).mono fun _ _ _ hlast => hlast.stage
  · next reason hreason =>
    -- A hand-off writes no reminder.
    have hsays : Says deployment thread unwarned (do
        let last ← lastReading deployment session messages
        let _ ← handOff deployment session reason last now) :=
      .bind (says_lastReading hbriefs.reports session messages) fun last _ =>
        .bind (says_handOff hbriefs (fun _ => send_unwarned (by decide)) last rfl) fun _ _ => trivial
    exact (hkeeps hsays).consequence (fun _ _ hknown => hknown.1) fun _ _ _ hresting => hresting

/-- The parts of a pass of the timers. -/
theorem pass_resting (deployment : Deployment) (kept : Bool) (thread : Thread Task) :
    PassParts (reminderExtension deployment kept) thread unwarned (World.Resting thread.number)
      fun _ => True where
  lasting := lasting_resting
  enough := suffices_unwarned _
  briefs := briefs_unwarned deployment
  openChat _ := rfl
  close := close_unwarned deployment
  giveUp := giveUp_unwarned
  list _ _ _ := trivial
  time session now := (time_spec session now).consequence (fun _ _ hknown => hknown.1)
    fun _ _ _ hknown => hknown
  unreachable session now := keeps_of_says lasting_resting (suffices_unwarned _)
    (says_handOff (briefs_unwarned deployment) (fun _ => send_unwarned (by decide)) none rfl)
  retry session now := keeps_of_says lasting_resting (suffices_unwarned _)
    (says_retryUndelivered (briefs_unwarned deployment) (fun _ => send_unwarned (by decide))
      (guide_unwarned _) (fun _ => send_unwarned (by decide)) now)
  join _ _ hresting := hresting

/-- A pass of the timers starts with no reminder on its way. -/
theorem resting_of_launch {world later : World} (h : world.Warned kept)
    (htick : thread.role = .tick) (hlaunch : launch thread world = some later) :
    later.Resting thread.number := by
  have hpass : world.ticking = none ∧
      later.warnings = { world.warnings with ticking := some thread.number } := by
    simp only [launch, htick] at hlaunch
    split at hlaunch
    · next hfree =>
      cases hlaunch
      exact ⟨Option.isNone_iff_eq_none.mp hfree, rfl⟩
    · cases hlaunch
  obtain ⟨hfree, hwarnings⟩ := hpass
  have hnone : world.warnings.sending ++ world.warnings.recording = [] := by
    rw [List.eq_nil_iff_forall_not_mem]
    intro entry hentry
    have hseated : world.ticking = some entry.1 := h.warnings.seated entry hentry
    rw [hfree] at hseated
    cases hseated
  rw [World.Resting, hwarnings]
  exact ⟨rfl, (List.append_eq_nil_iff.mp hnone).1, (List.append_eq_nil_iff.mp hnone).2⟩

/-- **Every task** leaves the reminders to the pass of the timers. -/
theorem reminder_launches (deployment : Deployment) (kept : Bool) :
    (reminderExtension deployment kept).contract.Launches := by
  refine Extension.launches (launches deployment _) ?_
  intro thread oracle world world' hinv hwarned _ hlaunch
  have hinv' : (reminderExtension deployment kept).news.inv world' :=
    ⟨(launch_stepped hinv hlaunch).inv, hwarned.launch hlaunch⟩
  obtain ⟨number, role⟩ := thread
  by_cases htick : role = .tick
  · subst htick
    exact (pass_resting deployment kept _).pass world' hinv' (resting_of_launch hwarned rfl hlaunch)
  · have hsays : Says deployment ⟨number, role⟩ unwarned (program deployment role) :=
      says_program (briefs_unwarned deployment) (runs_unwarned htick)
    exact keeps_of_says .true (fun hcall hinv hfact =>
      suffices_unwarned (fun _ => True) hcall hinv hfact) hsays world' hinv' trivial

/-! ## Runs -/

/-- **A party is reminded once.** In every state a run reaches, whatever the interleaving of tasks,
restarts and failing sends, each party of a session has one reminder on record at most, and was asked
before it. Where a reminder that a relay accepted is stored, and the process does not stop before,
relays accepted one at most. -/
theorem reminders_once {clock : Int} {conf : Conf Call String Task World}
    (hrun : (machine deployment).RunsTo (remindersKept kept) (Serbero.start clock) conf) :
    (∀ id party, (conf.world.store.messages.countP fun row =>
      row.sessionId == id && row.isSent party .reminder) ≤ 1) ∧
    (∀ (i : Nat) row party, conf.world.store.messages[i]? = some row →
      row.isSent party .reminder = true →
        ∃ j < i, ∃ question, conf.world.store.messages[j]? = some question ∧
          question.sessionId = row.sessionId ∧ question.isQuestionTo party = true) ∧
    (kept = true → ∀ id party, conf.world.sent.count (reminderTo id party) ≤ 1) := by
  have hstart : (reminderExtension deployment kept).contract.Kept (Serbero.start clock) :=
    Contract.kept_of_start ⟨inv_start clock, World.Warned.start clock⟩
  have hwarned : conf.world.Warned kept :=
    (hstart.run (reminder_launches deployment kept) hrun).1.1.2
  -- The rows that the record keeps are the reminders that were stored.
  have hcount : ∀ id party, (conf.world.store.messages.countP fun row =>
      row.sessionId == id && row.isSent party .reminder) =
        conf.world.warnings.storedFor id party := by
    intro id party
    rw [Warnings.storedFor, World.warnings, List.countP_filter]
    apply List.countP_congr
    intro row _
    simp only [Message.isSent, Message.warns, Bool.and_eq_true]
    tauto
  refine ⟨fun id party => ?_, fun i row party hrow hsent => ?_, fun hkept id party => ?_⟩
  · have honce := hwarned.warnings.once id party
    rw [hcount]
    omega
  · simp only [Message.isSent, Bool.and_eq_true, beq_iff_eq] at hsent
    obtain ⟨j, hj, question, hquestion, hid, hto⟩ := hwarned.about i row hrow
      (by simp [Message.warns, hsent.1.1, hsent.2])
    exact ⟨j, hj, question, hquestion, hid, hsent.1.2 ▸ hto⟩
  · have honce := hwarned.warnings.once id party
    have htraced := hwarned.warnings.traced hkept id party
    have hsent : conf.world.warnings.sent.count (reminderTo id party) =
        -- Each one that was accepted is stored or being stored, and there is at most one of those.
        conf.world.sent.count (reminderTo id party) := List.count_filter rfl
    rw [List.map_append, List.count_append] at honce
    omega

/-- Both parties leave their questions open, a pass reminds them, and the next one does not. -/
theorem reminders_once_reminded :
    let reminded := openedSteps ++ [.happen (.clock 6000), .launch .tick .quiet] ++ quietly 3 18 ++
      [.launch .tick .quiet] ++ quietly 4 8
    let conf := (machine smallDeployment).after (remindersKept true) (Serbero.start 1000) reminded
    (∀ id party, (conf.world.store.messages.countP fun row =>
      row.sessionId == id && row.isSent party .reminder) ≤ 1) ∧
    (∀ (i : Nat) row party, conf.world.store.messages[i]? = some row →
      row.isSent party .reminder = true →
        ∃ j < i, ∃ question, conf.world.store.messages[j]? = some question ∧
          question.sessionId = row.sessionId ∧ question.isQuestionTo party = true) ∧
    (true = true → ∀ id party, conf.world.sent.count (reminderTo id party) ≤ 1) :=
  reminders_once ((machine smallDeployment).runsTo_after (by decide +kernel))

end Serbero
