import Serbero.Runtime.Floods
import Serbero.Runtime.Reasons
import Serbero.Runtime.Replies
import Serbero.Runtime.Unreached

/-! # Every decision is explained, over whole runs

The contract of the daemon with one more need: a call that decides something finds in the store what
explains it. Turns know it from the evaluation they have just recorded, the timers from what they
have read. -/

namespace Serbero

open Pool
open Pool.Program

/-- The daemon's contract, beside a companion that notes nothing. -/
def silentContract (deployment : Deployment) :
    Contract (Companion.silent (machine deployment)).beside
      (Condition.besides Condition.always) :=
  (contract deployment Condition.always).beside (Companion.silent (machine deployment))
    (Condition.within_besides Condition.always)

variable {deployment : Deployment} {thread : Thread Task}

/-- What explains a decision, the whole world keeps. -/
theorem World.Explained.later {world later : World} (h : world.Explained deployment)
    (hlater : world.store.Later later.store)
    (htook : ∀ {id action}, later.Took id action → world.Took id action ∨
      world.store.Explains deployment id action) : later.Explained deployment := by
  intro id action haction
  rcases htook haction with hold | hnew
  · exact (h id action hold).later hlater
  · exact hnew.later hlater

/-- The daemon, whose decisions are explained. -/
def reasonExtension (deployment : Deployment) : Extension (silentContract deployment) where
  inv world := world.1.Explained deployment
  pre _ call world := ∀ id action, call.decides = some (id, action) →
    world.1.store.Explains deployment id action
  rely _ world later := world.1.store.Later later.1.store
  rely_refl _ world := .refl world.1.store
  rely_trans _ _ h h' := h.trans h'
  call_inv {β thread call oracle world} hcore hinv hneeds hpre _ := by
    refine hinv.later (.of_statements (performCall_statements deployment _ _ _ hcore)) ?_
    intro id action htook
    exact (performCall_took call oracle hneeds htook).imp_right (hpre id action)
  call_rely hcore _ _ _ _ _ := .of_statements (performCall_statements deployment _ _ _ hcore)
  launch_inv {thread oracle world later} _ hinv _ hlaunch := by
    have halone := (Companion.launch_cases _ hlaunch).1
    have hstore : later.1.store = world.1.store := (launch_traffic halone).1
    refine hinv.later (hstore ▸ .refl _) fun htook => Or.inl ?_
    exact took_of_store (launch_claims halone) (congrArg Store.events hstore) htook
  launch_rely {thread other oracle world later} _ _ _ hlaunch := by
    rw [(launch_traffic (Companion.launch_cases _ hlaunch).1).1]
    exact .refl _
  happen_inv {event world later} _ hinv _ hhappen := by
    rcases Companion.happen_cases _ hhappen with ⟨_, -, halone, -⟩ | ⟨deed, -⟩
    · refine hinv.later (.of_statements (happen_statements halone)) fun htook => Or.inl ?_
      obtain ⟨messages, hstore⟩ := happen_store halone
      exact took_of_store (happen_claims halone) (by rw [hstore]) htook
    · exact nomatch deed
  happen_rely {event other world later} _ _ _ hhappen := by
    rcases Companion.happen_cases _ hhappen with ⟨_, -, halone, -⟩ | ⟨deed, -⟩
    · exact .of_statements (happen_statements halone)
    · exact nomatch deed
  restart_inv _ hinv _ := hinv

/-! ## What a task knows -/

/-- What is known of a task whose decisions are explained. -/
abbrev reasonSpec (deployment : Deployment) :
    Spec (Companion.silent (machine deployment)).beside (Condition.besides Condition.always) :=
  (reasonExtension deployment).news

/-- The call decides nothing, or only this. -/
def decidesOnly (decision : Option (SessionId × Action)) {β : Type} (call : Call β) : Prop :=
  call.decides = none ∨ call.decides = decision

section

variable {decision : Option (SessionId × Action)}

/-- What the solvers are told decides nothing. -/
theorem tell_decidesOnly (dispute : DisputeId) (notification : String) :
    MayTell (decidesOnly decision) dispute notification := by
  intro _ call htells
  left
  cases call <;> first | rfl | cases htells

/-- Nor does what a party is sent. -/
theorem send_decidesOnly (id : SessionId) (party : Party) (template : Template) :
    MaySend deployment (decidesOnly decision) id party template := by
  intro _ call hsends
  left
  cases call <;> first | rfl | cases hsends

/-- Nor do briefs and the queries behind them. -/
theorem briefs_decidesOnly : AllowsBriefs deployment (decidesOnly decision) where
  query {_ call} hquery := by
    left
    cases call <;> first | rfl | cases hquery
  briefs {_ call} hbriefs := by
    left
    rcases hbriefs with ⟨dispute, notification, -, htells⟩ | hrecord
    · cases call <;> first | rfl | cases htells
    · cases call <;> first | rfl | cases hrecord

/-- Nor their records. -/
theorem reports_decidesOnly : AllowsReports (decidesOnly decision) where
  query {_ call} hquery := by
    left
    cases call <;> first | rfl | cases hquery
  tell dispute notification _ _ _ := fun htells => tell_decidesOnly dispute notification htells
  briefSent _ _ _ _ := Or.inl rfl
  updateSent _ _ _ _ := Or.inl rfl

/-- Nor an opening that is given up. -/
theorem giveUp_decidesOnly (dispute : DisputeId) : MayGiveUp (decidesOnly decision) dispute :=
  ⟨tell_decidesOnly dispute _, fun _ => Or.inl rfl⟩

/-- Nor a closing. -/
theorem close_decidesOnly : MayClose deployment (decidesOnly decision) :=
  ⟨Or.inl rfl, Or.inl rfl, fun _ => Or.inl rfl, fun id party => send_decidesOnly id party _,
    fun dispute => tell_decidesOnly dispute _, fun _ _ _ _ => Or.inl rfl⟩

end

/-- Where nothing is decided, nothing has to be explained. -/
theorem enough_undeciding (fact : World × Unit → Prop) :
    Enough (reasonSpec deployment) thread (decidesOnly none) fact := by
  intro _ call world hcall _ _ id action hdecides
  have hnothing : call.decides = none := Or.elim hcall (fun h => h) fun h => h
  rw [hnothing] at hdecides
  cases hdecides

/-- What stays as the store goes on lasts. -/
theorem lasting_later {property : Store → Prop}
    (h : ∀ {store later : Store}, property store → store.Later later → property later) :
    (reasonSpec deployment).Lasting thread anyCall fun world => property world.1.store := by
  refine ⟨fun hknown hrely => h hknown hrely.2, ?_⟩
  intro _ call oracle world _ hinv _ _ hknown
  exact h hknown (.of_statements (performCall_statements deployment thread call oracle hinv.1))

/-- What explains an action stays on record. -/
theorem lasting_explains (id : SessionId) (action : Action) :
    (reasonSpec deployment).Lasting thread anyCall
      fun world => world.1.store.Explains deployment id action :=
  lasting_later Store.Explains.later

/-- A program may take the one decision that is explained. -/
theorem keeps_deciding {decision : Option (SessionId × Action)} {fact : World × Unit → Prop}
    {α : Type} {program : Daemon α} (hfact : (reasonSpec deployment).Lasting thread anyCall fact)
    (hexplained : ∀ id action, decision = some (id, action) → ∀ world, fact world →
      world.1.store.Explains deployment id action)
    (h : Says deployment thread (decidesOnly decision) program) :
    (reasonSpec deployment).Keeps thread fact program := by
  refine keeps_beside (hfact.of_imp fun _ => trivial) ?_ h
  intro _ call world hcall _ hknown id action hdecides
  rcases hcall with hnothing | hthis
  · rw [hnothing] at hdecides
    cases hdecides
  · exact hexplained id action (hthis.symm.trans hdecides) world hknown

/-- A program that decides nothing needs nothing. -/
theorem keeps_undeciding {fact : World × Unit → Prop} {α : Type} {program : Daemon α}
    (hfact : (reasonSpec deployment).Lasting thread anyCall fact)
    (h : Says deployment thread (decidesOnly none) program) :
    (reasonSpec deployment).Keeps thread fact program :=
  keeps_deciding hfact (fun _ _ hdecision => by cases hdecision) h

/-- What a section reads, and what stays as the store goes on, is known. -/
theorem learns_later {α : Type} {fact : World × Unit → Prop} (query : Store → α)
    (known : α → Store → Prop) (hfact : (reasonSpec deployment).Lasting thread anyCall fact)
    (hlater : ∀ {value} {store later : Store}, known value store → store.Later later →
      known value later)
    (hquery : ∀ world, (reasonSpec deployment).inv world → fact world →
      known (query world.1.store) world.1.store) :
    (reasonSpec deployment).Learns thread fact (perform (.read query))
      fun value world => known value world.1.store := by
  refine learns_look query _ (fun _ _ => rfl) (hfact.of_imp fun _ => trivial)
    (show decidesOnly none (Call.read query) from Or.inl rfl) (enough_undeciding fact)
    (fun hknown hrely => hlater hknown hrely.2) ?_
  · intro world oracle hinv hknown
    refine hlater (hquery world hinv hknown) ?_
    exact .of_statements (performCall_statements deployment thread (.read query) oracle hinv.1)

/-- A hand-off whose reason is explained. -/
theorem handOff_reason (session : Session) (reason : HandoffReason) (reading : Option TurnReading)
    (now : Int) :
    (reasonSpec deployment).Keeps thread
      (fun world => world.1.store.Explains deployment session.sessionId (.handoff reason))
      (handOff deployment session reason reading now) := by
  have hsays : Says deployment thread (decidesOnly (some (session.sessionId, .handoff reason)))
      (handOff deployment session reason reading now) :=
    says_handOff briefs_decidesOnly (fun party => send_decidesOnly _ party _) reading (Or.inr rfl)
  refine keeps_deciding (lasting_explains _ _) (fun id action hdecision world hknown => ?_) hsays
  cases hdecision
  exact hknown

/-! ## Turns -/

/-- What a turn knows of the session and the messages it loaded. -/
structure LoadedFrom (deployment : Deployment) (session : Session) (messages : List Message)
    (store : Store) : Prop where
  messages : ∀ message ∈ messages, message ∈ store.messages ∧
    message.sessionId = session.sessionId
  guided : session.state = .guiding →
    ∃ path, store.Supports deployment session.sessionId (.guide path)

/-- What was loaded is still there in a later store. -/
theorem LoadedFrom.later {session : Session} {messages : List Message} {store grown : Store}
    (h : LoadedFrom deployment session messages store) (hlater : store.Later grown) :
    LoadedFrom deployment session messages grown where
  messages message hmessage :=
    ⟨hlater.messages.subset (h.messages message hmessage).1, (h.messages message hmessage).2⟩
  guided hguiding := by
    obtain ⟨path, hpath⟩ := h.guided hguiding
    exact ⟨path, hpath.later hlater⟩

/-- A party that the loaded messages show wrote in the session. -/
theorem LoadedFrom.heard {session : Session} {messages : List Message} {store : Store}
    (h : LoadedFrom deployment session messages store) {party : Party}
    (hheard : heard messages party = true) : store.HeardFrom session.sessionId party := by
  obtain ⟨message, hmessage, hfrom⟩ := List.any_eq_true.mp hheard
  obtain ⟨hstored, hid⟩ := h.messages message hmessage
  exact ⟨message, hstored, hid, hfrom⟩

/-- The table's action is explained once the evaluation of the turn is on record. -/
theorem LoadedFrom.explains {session current : Session} {messages : List Message} {store : Store}
    (h : LoadedFrom deployment session messages store) {phase : Phase}
    (hphase : phaseOf session.state = some phase) (events : List Event) (facts : Facts)
    (changed : List Party) {turn : Turn}
    (hturn : turn = turnOf deployment.settings deployment.thresholds.validatedLanguages phase
      current messages events facts changed)
    (hsupports : store.Supports deployment session.sessionId turn.decide) :
    store.Explains deployment session.sessionId turn.decide := by
  refine Store.explains_of_backs turn.backs_decide hsupports (fun hguiding => ?_) fun hheard => ?_
  · refine h.guided ?_
    subst hturn
    change phase = .guiding at hguiding
    subst hguiding
    cases hstate : session.state <;> rw [hstate] at hphase <;> cases hphase
  · subst hturn
    intro party
    cases party with
    | buyer => exact h.heard hheard.1
    | seller => exact h.heard hheard.2

/-- What a turn does takes no other decision than its action. -/
theorem says_act_decidesOnly (session : Session) (reading : TurnReading) (next : NextQuestions)
    (now : Int) (action : Action) :
    Says deployment thread (decidesOnly (some (session.sessionId, action)))
      (act deployment session reading next now action) := by
  have hbriefs : AllowsBriefs deployment (decidesOnly (some (session.sessionId, action))) :=
    briefs_decidesOnly
  cases action with
  | ask buyer seller =>
    refine .bind (.foldEach (fun firstInTurn party _ => ?_) true) fun _ _ => trivial
    refine .bind (.forEach fun template _ =>
      says_sendTemplate reports_decidesOnly (send_decidesOnly _ _ _)) fun _ _ => ?_
    split
    · exact .bind (.perform (Or.inl rfl) fun _ _ => trivial) fun _ _ => trivial
    · exact trivial
  | handoff reason =>
    exact .bind (says_handOff hbriefs (fun party => send_decidesOnly _ party _) _ (Or.inr rfl))
      fun _ _ => trivial
  | guide path => exact says_guide hbriefs (fun _ _ _ => send_decidesOnly _ _ _) reading (Or.inr rfl)
  | hold =>
    refine .bind (says_query reports_decidesOnly rfl) fun started _ => ?_
    exact says_hold reports_decidesOnly (fun party => send_decidesOnly _ party _) (Or.inr rfl)
  | wait => exact trivial

/-- Recording the evaluation of a turn puts what supports its action on record. -/
theorem record_supports {session : Session} {messages : List Message} (id : SessionId)
    (answers : Answers) (last : Int) (action : Action) (now : Int)
    (hgrounds : (Facts.fromAnswers answers deployment.thresholds
      deployment.settings.languages).Grounds action) :
    (reasonSpec deployment).Triple thread
      (fun world => LoadedFrom deployment session messages world.1.store)
      (perform (.insertEvaluation ⟨id, deployment.turnQuestions, last, answers, action, now⟩))
      fun result world => LoadedFrom deployment session messages world.1.store ∧
        (result = .ok () → world.1.store.Supports deployment id action) := by
  have hlasting : (reasonSpec deployment).Lasting thread anyCall
      fun world => LoadedFrom deployment session messages world.1.store :=
    lasting_later LoadedFrom.later
  refine .perform hlasting.rely (fun _ _ _ id action hdecides => by cases hdecides) ?_
  intro world oracle later hinv hknown hcond hrely _
  refine ⟨hlasting.rely (hlasting.call trivial hinv (fun id action hdecides => by cases hdecides)
    hcond hknown) hrely, fun hok => ?_⟩
  refine Store.Supports.later ?_ hrely.2
  change (performCall deployment thread _ oracle world.1).2.store.Supports deployment id action
  change (performCall deployment thread _ oracle world.1).1 = _ at hok
  simp only [performCall, World.underLock, World.orFail] at hok ⊢
  cases hfails : oracle.fails with
  | some failure =>
    rw [hfails] at hok
    cases hok
  | none =>
    simp only [World.withStore]
    exact ⟨_, List.mem_append_right _ (List.mem_singleton.mpr rfl), rfl, rfl, rfl, hgrounds⟩

/-- The evaluation is on record before the decision is, and explains it. -/
theorem decideAndAct_reason (session : Session) (messages : List Message) {phase : Phase}
    (hphase : phaseOf session.state = some phase) (state : JudgeState) (answers : Answers)
    (now : Int) :
    (reasonSpec deployment).Triple thread
      (fun world => LoadedFrom deployment session messages world.1.store)
      (decideAndAct deployment session messages phase state answers now) fun _ _ => True := by
  have hloaded : (reasonSpec deployment).Lasting thread anyCall
      fun world => LoadedFrom deployment session messages world.1.store :=
    lasting_later LoadedFrom.later
  have hreload : (machine deployment).Makes thread (decidesOnly none)
      (fun found => found.sessionId = session.sessionId) (reload session.sessionId) :=
    makes_reload (Or.inl rfl)
  refine Spec.Triple.bind _ (keeps_undeciding hloaded (says_updateLanguages (fun _ _ _ =>
    Or.inl rfl) _ now)) (fun changed => ?_) fun _ _ _ _ => trivial
  -- The session is read again: its row may have moved since the turn was loaded.
  refine Spec.Triple.bind _ (learns_of_makes (hloaded.of_imp fun _ => trivial)
    (enough_undeciding fun world => LoadedFrom deployment session messages world.1.store) hreload) (fun current => ?_) fun _ _ _ _ => trivial
  intro world hinv hcurrent
  have hid : current.sessionId = session.sessionId := hcurrent.2 _ rfl
  refine (?_ : (reasonSpec deployment).Triple thread
    (fun world => LoadedFrom deployment session messages world.1.store) _ fun _ _ => True)
      world hinv hcurrent.1
  refine Spec.Triple.bind _ (keeps_undeciding hloaded (says_query reports_decidesOnly rfl))
    (fun events => ?_) fun _ _ _ _ => trivial
  simp only []
  generalize hfacts : Facts.fromAnswers answers deployment.thresholds
    deployment.settings.languages = facts
  generalize hturn : turnOf deployment.settings deployment.thresholds.validatedLanguages phase
    current messages events facts changed = turn
  -- What the turn decides rests on facts that the answers give.
  have hgrounds : (Facts.fromAnswers answers deployment.thresholds
      deployment.settings.languages).Grounds turn.decide := by
    have hbacks := turn.backs_decide.grounds
    rw [← hturn] at hbacks ⊢
    rw [hfacts]
    exact hbacks
  refine Spec.Triple.bind _ (record_supports current.sessionId answers _ turn.decide now hgrounds)
    (fun _ => ?_) fun _ _ _ _ => trivial
  refine Spec.Triple.bind (fun _ _ => True) ?_ (fun _ => ?_) fun _ _ _ _ => trivial
  · refine Spec.Triple.consequence (keeps_deciding (lasting_explains current.sessionId turn.decide)
      (fun id action hdecision world hknown => ?_)
      (says_act_decidesOnly current _ turn.next now turn.decide)) (fun world _ hknown => ?_)
      fun _ _ _ _ => trivial
    · cases hdecision
      exact hknown
    -- The facts come from rows of the session this turn was loaded from.
    · rw [hid]
      exact hknown.1.explains hphase events facts changed hturn.symm (hid ▸ hknown.2 rfl)
  · exact fun _ _ _ _ _ _ => trivial

/-! ## Floods -/

/-- The strikes that were read are on record. -/
def StruckAtLeast (id : SessionId) (strikes : List (Party × Int)) (store : Store) : Prop :=
  ∀ party, (strikes.countP fun strike => strike.1 == party) ≤ store.strikesOf id party

/-- Strikes on record stay there. -/
theorem StruckAtLeast.later {id : SessionId} {strikes : List (Party × Int)} {store grown : Store}
    (h : StruckAtLeast id strikes store) (hlater : store.Later grown) :
    StruckAtLeast id strikes grown :=
  fun party => (h party).trans (Store.strikesOf_mono hlater party)

/-- The strikes among some events are counted as in the store. -/
theorem countP_strikes (id : SessionId) (events : List Event) (party : Party) :
    ((events.filterMap (strikeOf id)).countP fun strike => strike.1 == party) =
      events.countP fun event => (strikeOf id event).any fun strike => strike.1 == party := by
  induction events with
  | nil => rfl
  | cons event rest ih =>
    rw [List.countP_cons, ← ih]
    cases hstrike : strikeOf id event with
    | none => simp [hstrike]
    | some strike => simp [hstrike, List.countP_cons]

/-- The strikes that a turn reads are on record. -/
theorem struckAtLeast_read (store : Store) (id : SessionId) (dispute : DisputeId) :
    StruckAtLeast id ((store.listEvents dispute).filterMap (strikeOf id)) store := by
  intro party
  rw [countP_strikes]
  exact List.filter_sublist.countP_le

/-- A strike that was appended is counted besides those that were read. -/
theorem strikesOf_append {store : Store} {id : SessionId} {new : NewEvent} {party : Party}
    {count : Nat} {last : Int} (hid : new.sessionId = some id)
    (hkind : new.kind = .floodStrike party count last) :
    (store.append new).strikesOf id party = store.strikesOf id party + 1 := by
  unfold Store.strikesOf
  rw [Store.append_events, List.countP_append]
  simp [strikeOf, Store.eventRow, hid, hkind]

/-- What the count of strikes knows: what was loaded, the strikes that were read, and of a flood that
they are enough. -/
structure Striking (deployment : Deployment) (session : Session) (messages : List Message)
    (strikes : List (Party × Int)) (flood : Bool) (store : Store) : Prop where
  loaded : LoadedFrom deployment session messages store
  struck : StruckAtLeast session.sessionId strikes store
  flooded : flood = true → store.Explains deployment session.sessionId (.handoff .flood)

/-- What the count knows lasts as the store grows. -/
theorem Striking.later {session : Session} {messages : List Message}
    {strikes : List (Party × Int)} {flood : Bool} {store grown : Store}
    (h : Striking deployment session messages strikes flood store) (hlater : store.Later grown) :
    Striking deployment session messages strikes flood grown :=
  ⟨h.loaded.later hlater, h.struck.later hlater, fun hflood => (h.flooded hflood).later hlater⟩

/-- A strike that is stored counts besides those that were read. -/
theorem append_reason {session : Session} {messages : List Message}
    {strikes : List (Party × Int)} {flood : Bool} {new : NewEvent} {party : Party} {count : Nat}
    {last : Int} (hid : new.sessionId = some session.sessionId)
    (hkind : new.kind = .floodStrike party count last) :
    (reasonSpec deployment).Triple thread
      (fun world => Striking deployment session messages strikes flood world.1.store)
      (perform (.append new)) fun result world =>
        Striking deployment session messages strikes flood world.1.store ∧
          (result = .ok () → (strikes.countP fun strike => strike.1 == party) + 1 ≤
            world.1.store.strikesOf session.sessionId party) := by
  have hlasting : (reasonSpec deployment).Lasting thread anyCall
      fun world => Striking deployment session messages strikes flood world.1.store :=
    lasting_later Striking.later
  refine .perform hlasting.rely (fun _ _ _ _ _ hdecides => by cases hdecides) ?_
  intro world oracle later hinv hknown hcond hrely _
  refine ⟨hlasting.rely (hlasting.call trivial hinv (fun _ _ hdecides => by cases hdecides)
    hcond hknown) hrely, fun hok => ?_⟩
  refine le_trans ?_ (Store.strikesOf_mono hrely.2 party)
  change (performCall deployment thread (.append new) oracle world.1).1 = _ at hok
  change _ ≤ (performCall deployment thread (.append new) oracle world.1).2.store.strikesOf _ _
  simp only [performCall, World.underLock, World.orFail] at hok ⊢
  cases hfails : oracle.fails with
  | some failure =>
    rw [hfails] at hok
    cases hok
  | none =>
    have hstruck := hknown.struck party
    have hone : (world.1.store.append _).strikesOf _ party = _ := strikesOf_append hid hkind
    simp only [World.withStore]
    omega

/-- A party over the limit is struck, and with enough strikes on record floods the session. -/
theorem strikeParty_reason {session : Session} {messages : List Message}
    {strikes : List (Party × Int)} (counted now : Int) (flood : Bool) (party : Party) :
    (reasonSpec deployment).Triple thread
      (fun world => Striking deployment session messages strikes flood world.1.store)
      (strikeParty deployment session messages strikes counted now flood party)
      fun result world => LoadedFrom deployment session messages world.1.store ∧
        ∀ flood, result = .ok flood →
          Striking deployment session messages strikes flood world.1.store := by
  have kept : ∀ {found : Bool} {world later : World × Unit},
      Striking deployment session messages strikes found world.1.store →
        world.1.store.Later later.1.store →
          LoadedFrom deployment session messages later.1.store ∧
            ∀ flood, (Except.ok found : Except String Bool) = .ok flood →
              Striking deployment session messages strikes flood later.1.store := by
    intro found world later hknown hlater
    have hgrown := hknown.later hlater
    refine ⟨hgrown.loaded, fun flood heq => ?_⟩
    cases heq
    exact hgrown
  unfold strikeParty
  simp only []
  split
  · refine Spec.Triple.bind _ (append_reason rfl rfl) (fun _ => ?_)
      fun _ _ _ hknown => ⟨hknown.1.loaded, fun _ heq => by cases heq⟩
    refine Spec.Triple.done (fun hafter hrely => kept (hafter.2 _ rfl) hrely.2) fun world _ hknown => ?_
    refine ⟨hknown.1.loaded, fun found heq => ?_⟩
    cases heq
    refine ⟨hknown.1.loaded, hknown.1.struck, fun hflood => ?_⟩
    -- The flood was there before, or this strike was the last one it took.
    rcases Bool.or_eq_true_iff.mp hflood with hbefore | henough
    · exact hknown.1.flooded hbefore
    · exact ⟨party, (of_decide_eq_true henough).trans (hknown.2 rfl)⟩
  · refine Spec.Triple.done (fun hafter hrely => kept (hafter.2 _ rfl) hrely.2) fun world _ hknown => ?_
    exact kept hknown (.refl world.1.store)

/-- A turn that floods has the strikes for it on record. -/
theorem flooded_reason (session : Session) (messages : List Message) (now : Int) :
    (reasonSpec deployment).Triple thread
      (fun world => LoadedFrom deployment session messages world.1.store)
      (flooded deployment session messages now) fun result world =>
        LoadedFrom deployment session messages world.1.store ∧
          (result = .ok true →
            world.1.store.Explains deployment session.sessionId (.handoff .flood)) := by
  have hloaded : (reasonSpec deployment).Lasting thread anyCall
      fun world => LoadedFrom deployment session messages world.1.store :=
    lasting_later LoadedFrom.later
  rw [flooded_eq]
  refine Spec.Triple.bind _ (learns_later
    (fun store => (store.listEvents session.disputeId, store.listEvaluations session.sessionId))
    (fun (read : List Event × List Evaluation) store =>
      StruckAtLeast session.sessionId (read.1.filterMap (strikeOf session.sessionId)) store)
    hloaded StruckAtLeast.later fun _ _ _ => struckAtLeast_read _ _ _) (fun read => ?_)
    fun _ _ _ hknown => ⟨hknown.1, fun heq => by cases heq⟩
  -- The strikes that were read are a lower bound: later ones only add to them.
  generalize hstrikes : read.1.filterMap (strikeOf session.sessionId) = strikes
  let struck (result : Except String Bool) (world : World × Unit) : Prop :=
    LoadedFrom deployment session messages world.1.store ∧
      ∀ flood, result = .ok flood →
        Striking deployment session messages strikes flood world.1.store
  refine Spec.Triple.consequence (?_ : (reasonSpec deployment).Triple thread
    (struck (.ok false)) _ struck) ?_ ?_
  · refine Spec.Triple.foldEach ?_ (fun flood party _ => ?_) false
    · intro flood world later hafter hrely
      have hlater := (hafter.2 flood rfl).later hrely.2
      refine ⟨hlater.loaded, fun found heq => ?_⟩
      cases heq
      exact hlater
    · exact (strikeParty_reason _ now flood party).consequence
        (fun _ _ hknown => hknown.2 flood rfl) fun _ _ _ hafter => hafter
  · intro world _ hread
    refine ⟨hread.1, fun flood heq => ?_⟩
    cases heq
    exact ⟨hread.1, hstrikes ▸ hread.2 read rfl, fun heq => by cases heq⟩
  · exact fun result world _ hafter => ⟨hafter.1, fun heq => (hafter.2 true heq).flooded rfl⟩

/-! ## The turn -/

/-- What a turn loads is on record, and guidance under way is supported. -/
theorem loadedFrom_load {world : World × Unit} (hinv : (reasonSpec deployment).inv world)
    {id : SessionId} {session : Session} {messages : List Message} {openedBy : Initiator}
    (hload : world.1.store.load id = some (session, messages, openedBy)) :
    LoadedFrom deployment session messages world.1.store := by
  have hid : session.sessionId = id := Store.sessionId_of_load hload
  obtain ⟨row, hrow, hrest⟩ := Option.bind_eq_some_iff.mp hload
  obtain ⟨dispute, -, heq⟩ := Option.map_eq_some_iff.mp hrest
  cases heq
  refine ⟨fun message hmessage => ?_, fun hguiding => ?_⟩
  · rw [Store.mem_listMessages] at hmessage
    exact ⟨hmessage.1, hmessage.2.trans hid.symm⟩
  · -- A session that guides has its mark, and what was marked is explained.
    have hrow' : world.1.core.sessions[id]? = some session := by
      rw [← hinv.1.session_eq]
      exact hrow
    have hone := (hinv.1.documented session (List.mem_of_getElem? hrow')).guiding hguiding
    obtain ⟨event, hevent, hguided⟩ := List.countP_pos_iff.mp (hone ▸ Nat.one_pos)
    obtain ⟨hsame, hkind⟩ := Bool.and_eq_true_iff.mp hguided
    cases hpath : event.kind <;> rw [hpath] at hkind <;> cases hkind
    next path =>
    exact ⟨path, hinv.2 session.sessionId (.guide path) ⟨event, hevent, by simpa using hsame, hpath⟩⟩

/-- **A turn explains its decision.** -/
theorem turn_reason (id : SessionId) :
    TurnWalk (reasonSpec deployment) thread id (decidesOnly none) (fun _ => True)
      (fun session messages _ world => LoadedFrom deployment session messages world.1.store)
      (fun session world =>
        world.1.store.Explains deployment session.sessionId (.handoff .flood))
      (fun _ _ => True) where
  lasting := Spec.Lasting.true
  enough := enough_undeciding fun _ => True
  reports := reports_decidesOnly
  guide _ _ _ := send_decidesOnly _ _ _
  lasting_loaded _ _ _ := (lasting_later LoadedFrom.later).of_imp fun _ => trivial
  load {session messages openedBy} world oracle hinv _ hload :=
    (loadedFrom_load hinv hload).later (.of_statements
      (performCall_statements deployment thread (.load id) oracle hinv.1))
  -- A flood is explained by the strikes that were read with it.
  flooded session messages _ _ now _ _ :=
    (flooded_reason session messages now).consequence (fun _ _ hknown => hknown.2)
      fun _ _ _ hknown => ⟨hknown.1, fun _ => trivial, hknown.2⟩
  flood session messages openedBy _ now _ _ := by
    have hexplained : (reasonSpec deployment).Lasting thread anyCall fun world =>
        world.1.store.Explains deployment session.sessionId (.handoff .flood) :=
      lasting_explains _ _
    refine Spec.Triple.consequence (Spec.Keeps.bind (keeps_undeciding hexplained
      (says_lastReading reports_decidesOnly session messages)) fun last => Spec.Keeps.bind
        (handOff_reason session .flood last now) fun _ => Spec.Keeps.done hexplained _)
      (fun _ _ hknown => hknown.2) fun _ _ _ _ => trivial
  -- Without a judge nothing was decided that would need grounds.
  unavailable session now _ :=
    (handOff_reason session .judgeUnavailable none now).consequence (fun _ _ _ => trivial)
      fun _ _ _ _ => trivial
  lasting_asked _ := Spec.Lasting.true
  judge _ _ _ _ _ _ := trivial
  decide session messages _ phase answers now _ hphase :=
    (decideAndAct_reason session messages hphase _ answers now).consequence
      (fun _ _ hknown => hknown.1.2) fun _ _ _ hdone => hdone
  join _ _ _ _ _ _ hdecides := by cases hdecides

/-! ## The timers -/

/-- An unresponsive party was sent a reminder. -/
theorem reminded_of_unresponsive {clock : PartyClock} {now timeout : Int}
    (h : response clock now timeout = .unresponsive) : clock.remindedAt ≠ none := by
  intro hnone
  unfold response at h
  simp only [hnone] at h
  split at h
  · cases h
  split at h
  · cases h
  split at h <;> cases h

/-- The parties are walked to one that does not answer. -/
theorem Clocks.unresponsive_of_check (clocks : Clocks) (timeout : Int) {remind parties : List Party}
    {reason : HandoffReason} (h : clocks.checkParties timeout remind parties = .handoff reason) :
    reason = .unresponsive ∧
      ∃ party ∈ parties, response (clocks.party party) clocks.now timeout = .unresponsive := by
  induction parties generalizing remind with
  | nil =>
    unfold checkParties at h
    split at h <;> cases h
  | cons party rest ih =>
    unfold checkParties at h
    split at h
    · next hresponse =>
      cases h
      exact ⟨rfl, party, List.mem_cons_self, hresponse⟩
    all_goals
      obtain ⟨hreason, other, hother, hresponse⟩ := ih h
      exact ⟨hreason, other, List.mem_cons_of_mem party hother, hresponse⟩

/-- The clock of a party that was reminded shows the reminder. -/
theorem reminded_of_clock {store : Store} {id : SessionId} {party : Party}
    (h : (partyClock (store.listMessages id) party).remindedAt ≠ none) : store.Reminded id := by
  obtain ⟨at', hat⟩ := Option.ne_none_iff_exists'.mp h
  obtain ⟨message, hmessage, -⟩ := Option.map_eq_some_iff.mp hat
  have hmem := LastOf.mem_of_maxByKey hmessage
  obtain ⟨hmem, hsent⟩ := List.mem_filter.mp hmem
  obtain ⟨hto, htemplate⟩ := Bool.and_eq_true_iff.mp hsent
  rw [Store.mem_listMessages] at hmem
  refine ⟨message, hmem.1, hmem.2, party, ?_⟩
  obtain ⟨template, hsome, heq⟩ := (Option.any_eq_true _ _).mp htemplate
  rw [beq_iff_eq] at heq
  subst heq
  unfold Message.isTo at hto
  unfold Message.isSent
  rw [hto, hsome]
  rfl

/-- A session that holds took the decision to. -/
theorem took_hold {world : World} {id : SessionId} {dispute : DisputeId} {messages : List Message}
    {hold : Hold} (h : Hold.current id (world.store.listEvents dispute) messages = some hold) :
    world.Took id .hold := by
  unfold Hold.current at h
  split at h
  · cases h
  next held hnewest =>
  obtain ⟨hmem, hheld⟩ := List.mem_filter.mp (LastOf.mem_of_maxByKey hnewest)
  obtain ⟨hid, hkind⟩ := Bool.and_eq_true_iff.mp hheld
  cases hlast : held.kind <;> rw [hlast] at hkind <;> cases hkind
  next last =>
  refine ⟨held, List.mem_filter.mpr ⟨List.mem_of_mem_filter hmem, ?_⟩, by simpa using hid, last, hlast⟩
  rw [hlast]
  rfl

/-- What the timers do is explained by what they read. -/
theorem explains_of_check {world : World} (h : world.Explained deployment) (session : Session)
    (now : Int) (timeouts : Timeouts) {reason : HandoffReason}
    (hcheck : (clocks session (world.store.listMessages session.sessionId)
      (world.store.listEvents session.disputeId) now).check timeouts = .handoff reason) :
    world.store.Explains deployment session.sessionId (.handoff reason) := by
  generalize hclocks : clocks session (world.store.listMessages session.sessionId)
    (world.store.listEvents session.disputeId) now = found at hcheck
  unfold Clocks.check at hcheck
  split at hcheck
  · split at hcheck
    · next hguided =>
      cases hcheck
      -- The guidance whose time is over is marked in the history.
      obtain ⟨at', hat, -⟩ := (Option.any_eq_true _ _).mp hguided
      rw [← hclocks] at hat
      have hmem : at' ∈ guidedTimes session.sessionId (world.store.listEvents session.disputeId) :=
        List.max?_mem hat
      obtain ⟨event, hevent, hsome⟩ := List.mem_filterMap.mp hmem
      cases hkind : event.kind <;> rw [hkind] at hsome <;> simp only [reduceCtorEq] at hsome
      next path =>
      split at hsome
      · next hid =>
        refine ⟨path, h session.sessionId (.guide path) ⟨event, ?_, hid, hkind⟩⟩
        exact List.mem_filter.mpr ⟨List.mem_of_mem_filter hevent, by rw [hkind]; rfl⟩
      · cases hsome
    · cases hcheck
  split at hcheck
  · next hheld =>
    cases hcheck
    obtain ⟨at', hat, -⟩ := (Option.any_eq_true _ _).mp hheld
    rw [← hclocks] at hat
    obtain ⟨hold, hhold, -⟩ := Option.map_eq_some_iff.mp hat
    have hexplained := h session.sessionId .hold (took_hold hhold)
    exact ⟨Or.inr hexplained.1, hexplained.2⟩
  · obtain ⟨rfl, party, -, hresponse⟩ := found.unresponsive_of_check _ hcheck
    have hreminded := reminded_of_unresponsive hresponse
    rw [← hclocks] at hreminded
    cases party with
    | buyer => exact reminded_of_clock hreminded
    | seller => exact reminded_of_clock hreminded

/-- The timers hand off a party that was reminded and left its questions open. -/
theorem tickSession_reason (session : Session) (now : Int) :
    (reasonSpec deployment).Keeps thread (fun _ => True) (tickSession deployment session now) := by
  -- What the clocks say of a reading stays explained.
  let known (read : List Message × List Event) (store : Store) : Prop :=
    ∀ reason, (clocks session read.1 read.2 now).check
      ⟨deployment.settings.responseTimeout, deployment.settings.selfResolutionTimeout,
        deployment.settings.handoffGrace⟩ = .handoff reason →
          store.Explains deployment session.sessionId (.handoff reason)
  have hgrows : ∀ {read : List Message × List Event} {store grown : Store}, known read store →
      store.Later grown → known read grown :=
    fun h hlater reason hcheck => (h reason hcheck).later hlater
  refine Spec.Triple.bind _ (learns_later (fun store =>
    (store.listMessages session.sessionId, store.listEvents session.disputeId)) known
      Spec.Lasting.true hgrows fun world hinv _ reason hcheck =>
        explains_of_check hinv.2 session now _ hcheck) (fun read => ?_) fun _ _ _ _ => trivial
  obtain ⟨messages, history⟩ := read
  have hknown : (reasonSpec deployment).Lasting thread anyCall
      fun world => known (messages, history) world.1.store := lasting_later hgrows
  refine Spec.Triple.consequence (?_ : (reasonSpec deployment).Keeps thread
    (fun world => known (messages, history) world.1.store) _)
    (fun _ _ hread => hread.2 _ rfl) fun _ _ _ _ => trivial
  simp only []
  split
  · exact Spec.Keeps.done hknown ()
  · exact keeps_undeciding hknown (.forEach fun party _ =>
      says_sendTemplate reports_decidesOnly (send_decidesOnly _ party _))
  · next reason hreason =>
    refine .bind (keeps_undeciding hknown (says_lastReading reports_decidesOnly session messages))
      fun last => ?_
    refine .bind ?_ fun _ => Spec.Keeps.done hknown ()
    have hsays : Says deployment thread (decidesOnly (some (session.sessionId, .handoff reason)))
        (handOff deployment session reason last now) :=
      says_handOff briefs_decidesOnly (fun party => send_decidesOnly _ party _) last (Or.inr rfl)
    refine keeps_deciding hknown (fun id action hdecision world hread => ?_) hsays
    cases hdecision
    exact hread reason hreason

/-- The pass over one session: its chat, its timers, its retries. -/
theorem tickLive_reason (now : Int) (session : Session) :
    (reasonSpec deployment).Keeps thread (fun _ => True) (tickLive deployment now session) := by
  have hnothing : (reasonSpec deployment).Lasting thread anyCall fun _ => True := .true
  have hretry : Says deployment thread (decidesOnly none)
      (retryUndelivered deployment session now) :=
    says_retryUndelivered briefs_decidesOnly (fun party => send_decidesOnly _ party _)
      (fun _ _ _ => send_decidesOnly _ _ _) (fun party => send_decidesOnly _ party _) now
  refine .bind (.attempt ?_) fun _ => .bind (.attempt (keeps_undeciding .true hretry)) fun _ =>
    Spec.Keeps.done hnothing ()
  split
  · refine .bind (keeps_undeciding .true (says_chatOpen reports_decidesOnly
      (fun _ => Or.inl rfl) session)) fun isOpen => ?_
    split
    · exact tickSession_reason session now
    · refine .bind ((handOff_reason session .openingFailed none now).consequence
        (fun _ _ _ => trivial) fun _ _ _ _ => trivial) fun _ => Spec.Keeps.done hnothing ()
  · exact Spec.Keeps.done hnothing ()

/-- **A pass of the timers explains its hand-offs.** -/
theorem tick_reason (now : Int) :
    (reasonSpec deployment).Keeps thread (fun _ => True) (tick deployment now) := by
  have hnothing : (reasonSpec deployment).Lasting thread anyCall fun _ => True := .true
  refine .bind (keeps_undeciding .true (says_query reports_decidesOnly rfl)) fun live => ?_
  refine .bind (.forEach hnothing fun session _ => tickLive_reason now session) fun _ => ?_
  refine .bind (keeps_undeciding .true (says_finishPending reports_decidesOnly
    close_decidesOnly.finishes _ now)) fun _ => ?_
  exact keeps_undeciding .true (says_retryOpeningNotices reports_decidesOnly giveUp_decidesOnly now)

/-! ## Every task -/

/-- A task that is no turn and no pass of the timers decides nothing. -/
theorem runs_undeciding {task : Task} (hturn : ∀ id, task ≠ .turn id) (htick : task ≠ .tick) :
    MayRun deployment (decidesOnly none) task := by
  have consider : MayConsider deployment (decidesOnly none) :=
    { insert := fun _ _ _ _ => Or.inl rfl
      openChat := fun _ => Or.inl rfl
      closeChat := fun _ => Or.inl rfl
      greet := fun id _ _ => send_decidesOnly id _ _
      abandon := fun _ _ _ _ => Or.inl rfl
      activate := fun _ _ _ => Or.inl rfl
      started := fun _ => tell_decidesOnly _ _
      opened := fun _ _ _ => Or.inl rfl
      giveUp := giveUp_decidesOnly
      claim := fun _ _ _ => Or.inl rfl
      take := fun _ => Or.inl rfl
      notOpened := fun _ _ _ => Or.inl rfl
      release := fun _ => Or.inl rfl }
  have notify : MayNotify (decidesOnly none) :=
    ⟨fun dispute _ _ => tell_decidesOnly dispute _, fun _ _ => Or.inl rfl, fun _ _ => Or.inl rfl,
      fun _ => Or.inl rfl⟩
  cases task with
  | consider dispute => exact consider
  | judgeChecks started => exact ⟨consider, Or.inl rfl⟩
  | turn id => exact absurd rfl (hturn id)
  | tick => exact absurd rfl htick
  | handleEvent dispute => exact notify
  | remind renotifyAfter => exact notify
  | finish dispute status byParties => exact close_decidesOnly
  | finishPending => exact close_decidesOnly
  | resume => exact fun _ => Or.inl rfl

/-- **Every task explains what it decides.** -/
theorem reason_launches (deployment : Deployment) :
    (reasonExtension deployment).contract.Launches := by
  have halone : (contract deployment Condition.always).Launches :=
    launches deployment Condition.always
  have hbase : (silentContract deployment).Launches :=
    halone.beside (Condition.within_besides Condition.always)
  apply Extension.launches hbase
  intro thread oracle world world' hinv hexplained hcond hlaunch
  have hinv' : (reasonSpec deployment).inv world' :=
    ⟨(silentContract deployment).launch_inv hinv hcond hlaunch,
      (reasonExtension deployment).launch_inv hinv hexplained hcond hlaunch⟩
  refine (?_ : (reasonSpec deployment).Triple thread (fun _ => True)
    (program deployment thread.role) fun _ _ => True) world' hinv' trivial
  obtain ⟨number, role⟩ := thread
  by_cases hturn : ∃ id, role = .turn id
  · obtain ⟨id, rfl⟩ := hturn
    exact (turn_reason id).turnLogged
  by_cases htick : role = .tick
  · subst htick
    refine Spec.Keeps.bind (keeps_undeciding .true (says_query reports_decidesOnly rfl)) fun now => ?_
    refine Spec.Keeps.bind (.attempt (tick_reason now)) fun _ => ?_
    exact keeps_undeciding .true (.perform (Or.inl rfl) fun _ _ => trivial)
  · exact keeps_undeciding .true (says_others reports_decidesOnly
      (fun id hrole => hturn ⟨id, hrole⟩) htick
        (runs_undeciding (fun id hrole => hturn ⟨id, hrole⟩) htick))

/-! ## Runs -/

/-- A session with a reason was handed off for it, or its opening failed. -/
theorem explains_of_reason {world : World} (hinv : world.core.Inv)
    (hexplained : world.Explained deployment) {session : Session}
    (hsession : session ∈ world.store.sessions) {reason : HandoffReason}
    (hreason : session.handoffReason = some reason) :
    world.store.Explains deployment session.sessionId (.handoff reason) := by
  have hone := (hinv.documented session hsession).claimed (by rw [hreason]; exact Option.some_ne_none _)
  obtain ⟨claim, hclaim, hid⟩ := List.countP_pos_iff.mp (hone ▸ Nat.one_pos)
  have hid : claim.1 = session.sessionId := by simpa using hid
  have hlogged := hinv.logged claim hclaim
  -- The claim's reason is in the session's own row.
  have same : ∀ {found : Session}, found ∈ world.core.sessions → found.sessionId = claim.1 →
      found.handoffReason = session.handoffReason := by
    intro found hfound hsame
    have hrow := hinv.getElem?_of_mem hfound
    have hrow' : world.core.sessions[session.sessionId]? = some session :=
      hinv.getElem?_of_mem hsession
    rw [hsame.trans hid, hrow', Option.some.injEq] at hrow
    rw [hrow]
  obtain ⟨id, claimer⟩ := claim
  subst hid
  cases claimer with
  | handOff found last =>
    obtain ⟨-, -, -, -, row, hrow, hsame, hfound⟩ := hlogged
    rw [same hrow hsame, hreason, Option.some.injEq] at hfound
    subst hfound
    exact hexplained _ (.handoff reason) ⟨last, hclaim⟩
  | abandon =>
    obtain ⟨-, -, row, hrow, hsame, hfound⟩ := hlogged
    rw [same hrow hsame, hreason, Option.some.injEq] at hfound
    subst hfound
    exact trivial

/-- **Every decision is explained by the record.** In every state that any run reaches, whoever
reads the store finds for each session that was handed off, for each guidance and for each hold what
it rests on: the evaluation of a turn that took the action, with answers that show why, the
strikes of a flood, the reminder of a party that did not answer, or the guidance or hold whose time
was over. Where the judge or an opening failed, nothing was judged. -/
theorem decisions_explained {clock : Int} {conf : Conf Call String Task World}
    (hrun : (machine deployment).RunsTo Condition.always (Serbero.start clock) conf) :
    (∀ session ∈ conf.world.store.sessions, ∀ reason, session.handoffReason = some reason →
      conf.world.store.Explains deployment session.sessionId (.handoff reason)) ∧
    (∀ event ∈ conf.world.store.events, ∀ id, event.sessionId = some id →
      (∀ path, event.kind = .guided path →
        conf.world.store.Explains deployment id (.guide path)) ∧
      ∀ last, event.kind = .held last → conf.world.store.Explains deployment id .hold) := by
  have hstart : (reasonExtension deployment).contract.Kept ((Serbero.start clock).noted ()) := by
    -- At the start nothing was decided.
    refine Contract.kept_of_start ⟨inv_start clock, fun id action htook => ?_⟩
    cases action with
    | handoff reason =>
      obtain ⟨last, hclaim⟩ := htook
      cases hclaim
    | guide path =>
      obtain ⟨event, hevent, -⟩ := htook
      cases hevent
    | hold =>
      obtain ⟨event, hevent, -⟩ := htook
      cases hevent
    | _ => exact htook.elim
  obtain ⟨notes, hboth⟩ := (Companion.silent (machine deployment)).runsTo_beside () hrun
  have hkept := (hstart.run (reason_launches deployment) hboth).1
  have hinv : conf.world.core.Inv := hkept.1.1
  have hexplained : conf.world.Explained deployment := hkept.1.2
  -- What documents a decision is a mark, and the core keeps those.
  have hmarked : ∀ event ∈ conf.world.store.events, event.kind.isMark = true →
      event ∈ conf.world.store.marks := fun event hevent hmark => List.mem_filter.mpr ⟨hevent, hmark⟩
  refine ⟨fun session hsession reason hreason => explains_of_reason hinv hexplained hsession hreason,
    fun event hevent id hid => ⟨fun path hkind => ?_, fun last hkind => ?_⟩⟩
  · exact hexplained id (.guide path)
      ⟨event, hmarked event hevent (by rw [hkind]; rfl), hid, hkind⟩
  · exact hexplained id .hold
      ⟨event, hmarked event hevent (by rw [hkind]; rfl), hid, last, hkind⟩

/-- Where the parties of the first session are guided. -/
def guidedConf : Conf Call String Task World :=
  (machine smallDeployment).after Condition.always (Serbero.start 1000) briefAgainSteps

/-- The guidance of the example is on record, and the evaluation behind it too. -/
theorem decisions_explained_guided :
    (guidedConf.world.store.events.any fun event =>
      event.kind == .guided .paymentArrived && event.sessionId == some 0) = true ∧
    ((∀ session ∈ guidedConf.world.store.sessions, ∀ reason, session.handoffReason = some reason →
      guidedConf.world.store.Explains smallDeployment session.sessionId (.handoff reason)) ∧
    (∀ event ∈ guidedConf.world.store.events, ∀ id, event.sessionId = some id →
      (∀ path, event.kind = .guided path →
        guidedConf.world.store.Explains smallDeployment id (.guide path)) ∧
      ∀ last, event.kind = .held last →
        guidedConf.world.store.Explains smallDeployment id .hold)) :=
  ⟨by decide +kernel,
    decisions_explained ((machine smallDeployment).runsTo_after (by decide +kernel))⟩

end Serbero
