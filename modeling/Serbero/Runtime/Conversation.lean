import Mathlib
import Serbero.Config.Settings
import Serbero.Runtime.Transcripts

/-! # A conversation without an end

A seller whose payment arrived says one more word a minute later, and again. The session watches its
parties: each turn judges the whole conversation, answers nothing and settles it, and the timers pass
by, as long as the operator lets a session watch. -/

namespace Serbero

open Pool Pool.Program

/-! ## A deployment with any limits -/

section limited

/-- What the operator may choose about the length of a conversation. -/
structure Limits where
  maxMessageChars : Nat
  maxMessagesPerTurn : Nat
  maxRounds : Nat
  selfResolutionTimeout : Nat
  deriving DecidableEq, Repr

/-- The settings with these limits, and the defaults for the rest. -/
def Limits.mediation (limits : Limits) : MediationConfig :=
  { MediationConfig.default with
    enabled := true
    languages := ["en"]
    maxMessageChars := limits.maxMessageChars
    maxMessagesPerTurn := limits.maxMessagesPerTurn
    maxRounds := limits.maxRounds
    selfResolutionTimeout := limits.selfResolutionTimeout }

/-- Any limits but zeros are accepted. -/
theorem Limits.valid_mediation {limits : Limits} (hchars : 0 < limits.maxMessageChars)
    (hturn : 0 < limits.maxMessagesPerTurn) (hrounds : 0 < limits.maxRounds)
    (htimeout : 0 < limits.selfResolutionTimeout) : limits.mediation.Valid where
  languages := show EnabledLanguages ["en"] from ⟨by decide, by decide, by decide⟩
  default_mem := show "en" ∈ ["en"] by decide
  quietPeriod_pos := show 0 < MediationConfig.default.quietPeriod by decide
  responseTimeout_pos := show 0 < MediationConfig.default.responseTimeout by decide
  selfResolutionTimeout_pos := htimeout
  maxRounds_pos := hrounds
  maxMessageChars_pos := hchars
  maxMessagesPerTurn_pos := hturn

/-- A small deployment with these limits. -/
def limitedTo (limits : Limits) : Deployment :=
  { smallDeployment with settings := limits.mediation.settings }

/-- What the judge is sure of: the payment arrived, the seller answers in English, and nothing else
was said. -/
def sureOf (options : List String) : Std.TreeMap String ℚ :=
  let sure := options.find?
    ["says_received", "not_stated", "payment_not_confirmed", "answers", "en"].contains
  .ofList (options.map fun option => (option, if some option = sure then (1 : ℚ) else 0))

/-- The judge's answers to a turn in which only the seller wrote. -/
def sureAnswers (guiding : Bool) : Answers :=
  .ofList (((TurnQuestions.questionList ["en"]).filter fun entry =>
    TurnQuestions.asks [.seller] guiding entry.1).map fun entry => (entry.1,
      match entry.2 with
      | .choice options => Answer.choice (sureOf options)
      | _ => .noul 0))

/-- What the judge is sure of, in facts. -/
def sureFacts : Facts :=
  { buyerSent := false, buyerNotSent := false, buyerNotSentForGuide := false
    buyerHasDetails := false, sellerReceived := true, sellerReceivedForGuide := true
    sellerNotReceived := false, sellerHasChecked := false, conflict := false, fraud := false
    outsideScope := false, buyer := none, seller := some ⟨false, false, some "en", .answers⟩ }

/-- What the judge is sure of, the facts say. -/
theorem fromAnswers_sureAnswers (guiding : Bool) :
    Facts.fromAnswers (sureAnswers guiding) smallDeployment.thresholds ["en"] = sureFacts := by
  revert guiding
  decide +kernel

/-- A session that watches its parties decides to wait. -/
theorem decide_guiding (limits : Limits) (session : Session) (messages : List Message) (events : List Event)
    (changed : List Party) :
    (turnOf (limitedTo limits).settings ["en"] .guiding
      session messages events sureFacts changed).decide = .wait := rfl

/-- A session that gathers facts decides to guide, as the seller says the payment arrived. -/
theorem decide_gathering (limits : Limits) {session : Session} (messages : List Message) (events : List Event)
    (changed : List Party) (hbuyer : session.buyerLang = none) (hseller : session.sellerLang = none) :
    (turnOf (limitedTo limits).settings ["en"] .gathering
      session messages events sureFacts changed).decide = .guide .paymentArrived := by
  have hvalidated : (turnOf (limitedTo limits).settings
      ["en"] .gathering session messages events sureFacts changed).validated = true := by
    simp [Turn.validated, turnOf, Session.language, hbuyer, hseller, limitedTo, Limits.mediation,
      MediationConfig.settings, MediationConfig.default]
  have hguide : (turnOf (limitedTo limits).settings ["en"]
      .gathering session messages events sureFacts changed).guideOrHold .paymentArrived =
        some (.guide .paymentArrived) := by
    rw [Turn.guideOrHold, hvalidated]
    rfl
  show Turn.decideGathering _ = _
  rw [Turn.decideGathering, hguide]
  rfl

/-! ## A session that hears one word after another -/

/-- The row of the session. -/
def chattySession (state : SessionState) (updatedAt : Int) : Session :=
  { sessionId := 0, disputeId := 1, state := state, fiatAmount := some "40", fiatCode := none
    paymentMethod := some "SEPA", orderPublishedAt := none, buyerLang := none, sellerLang := none
    rounds := 0, buyerRounds := 0, sellerRounds := 0, handoffReason := none, openedAt := 1000
    updatedAt := updatedAt }

/-- It is the first session. -/
@[simp]
theorem chattySession_sessionId (state : SessionState) (updatedAt : Int) :
    (chattySession state updatedAt).sessionId = 0 := rfl

/-- It is the first dispute's. -/
@[simp]
theorem chattySession_disputeId (state : SessionState) (updatedAt : Int) :
    (chattySession state updatedAt).disputeId = 1 := rfl

/-- The store of the session once its seller said so many words, all of them settled. -/
structure Chatty (deployment : Deployment) (store : Store) (state : SessionState) (clock : Int)
    (count : Nat) : Prop where
  session : ∃ updatedAt, store.session 0 = some (chattySession state updatedAt)
  dispute : ∃ row, store.dispute 1 = some row
  own : ∀ message ∈ store.messages, message.sessionId = 0
  sorted : store.messages.Pairwise Message.saidBefore
  past : ∀ message ∈ store.messages, message.createdAt ≤ clock
  fresh : ∀ message ∈ store.messages, ∀ number,
    message.innerEventId = .party number → number < count
  unstruck : (store.listEvents 1).filterMap (strikeOf 0) = []
  counted : ∀ message ∈ store.messages, message.direction = .inbound →
    message.id ≤ countedUpTo deployment [] (store.listEvaluations 0)
  said : count ≤ store.messages.countP fun message => message.content == "x"

/-- Nothing is under way, and the session's chat is open. -/
structure World.Paused (world : World) (clock : Int) : Prop where
  clock : world.clock = clock
  ready : world.judgeReady = true
  chats : world.openChats = [0]
  announced : world.announced = []
  deadlines : world.deadlines = []
  dueAgain : world.dueAgain = []
  running : world.running = []
  ticking : world.ticking = none

/-- How many passes of the timers there were. -/
def timerPasses (conf : Conf Call String Task World) : Nat := (conf.threads.map Prod.fst).count .tick

/-- The seller's next word. -/
def nextWord (count : Nat) (clock : Int) : Inbound := ⟨0, .seller, "x", 0, count, clock, false⟩

/-- The store once the next word arrived. -/
def Store.hear (store : Store) (count : Nat) (clock : Int) : Store :=
  { store with
    messages := store.messages ++
      [⟨store.messages.length + 1, 0, .inbound, .seller, none, none, "x", 0, .party count, clock⟩] }

/-- The world when the turn of the next word starts. -/
def World.hear (world : World) (count : Nat) (clock : Int) (thread : Nat) : World :=
  { world with
    store := world.store.hear count clock
    clock := clock
    announced := []
    deadlines := []
    running := [(thread, 0)] }

/-- A word of one letter is never cut. -/
theorem truncate_word {maxChars : Nat} (h : 0 < maxChars) : truncate "x" maxChars = "x" := by
  rw [truncate, List.take_of_length_le (show "x".toList.length ≤ maxChars from h)]
  rfl

variable {limits : Limits} {conf : Conf Call String Task World} {state : SessionState} {clock : Int} {count : Nat}

/-- A minute later the seller says one more word, and a turn starts. -/
theorem runsTo_hear (hchars : 0 < limits.maxMessageChars) (hpaused : conf.world.Paused clock)
    (hchatty : Chatty (limitedTo limits) conf.world.store
      state clock count) (hlive : state.isTerminal = false) :
    (machine (limitedTo limits)).RunsTo withinLimits conf
      ⟨conf.world.hear count (clock + 60) conf.threads.length, conf.threads ++
        [(.turn 0, turnLogged (limitedTo limits) 0)]⟩ := by
  obtain ⟨updatedAt, hsession⟩ := hchatty.session
  -- The word is a new one, so it is not yet stored.
  have hfind : conf.world.store.messages.any (fun message => message.sessionId == 0 &&
      message.direction == .inbound && message.party == .seller &&
        message.innerEventId == .party count) = false := by
    rw [List.any_eq_false]
    intro message hmessage hsame
    simp only [Bool.and_eq_true, beq_iff_eq] at hsame
    exact absurd (hchatty.fresh message hmessage count hsame.2) (lt_irrefl count)
  have hinsert : conf.world.store.insertMessageIfNew
      { sessionId := 0, direction := .inbound, party := .seller, templateId := none, lang := none
        content := "x", attachments := 0, innerEventId := .party count
        createdAt := clock + 60 } = .ok (true, conf.world.store.hear count (clock + 60)) := by
    rw [Store.insertMessageIfNew, hsession, hfind]
    rfl
  have hreceive : { conf.world with clock := clock + 60 }.receive
      (limitedTo limits) (nextWord count (clock + 60)) =
        some { conf.world with
          clock := clock + 60
          store := conf.world.store.hear count (clock + 60)
          announced := [0] } := by
    have hopen : conf.world.openChats.contains 0 = true := by
      rw [hpaused.chats]
      rfl
    have hsome : (conf.world.store.session 0).any Session.isLive = true := by
      rw [hsession, Option.any_some, Session.isLive, chattySession, hlive]
      rfl
    have htext : truncate "x"
        (limitedTo limits).settings.maxMessageChars = "x" :=
      truncate_word hchars
    simp only [World.receive, nextWord, hopen, hsome, htext, hinsert, hpaused.announced]
    rfl
  have hlaunch : launch ⟨conf.threads.length, .turn 0⟩
      { conf.world with
        clock := clock + 60
        store := conf.world.store.hear count (clock + 60)
        announced := []
        deadlines := conf.world.deadlines.filter (· != 0) ++ [0] } =
      some (conf.world.hear count (clock + 60) conf.threads.length) := by
    simp only [launch, hpaused.deadlines, hpaused.running, World.hear]
    rfl
  -- The seller's last word is a minute old: the sender's own pace.
  have hpast : (conf.world.store.listMessages 0).all (fun message =>
      !message.isFrom .seller || decide (message.createdAt + 60 ≤ clock + 60)) = true := by
    rw [List.all_eq_true]
    intro message hmessage
    have := hchatty.past message (Store.mem_listMessages.mp hmessage).1
    simp [this]
  -- A minute passes, the word arrives, its deadline is set, and the turn starts.
  refine .head ⟨.happen (.clock (clock + 60)), rfl, rfl⟩ ?_
  refine .head ⟨.happen (.receive (nextWord count (clock + 60))),
    Bool.and_eq_true_iff.mpr ⟨beq_self_eq_true _, hpast⟩,
    congrArg (Option.map fun world => (⟨world, conf.threads⟩ : Conf Call String Task World))
      hreceive⟩ ?_
  refine .head ⟨.happen .touch, rfl, rfl⟩ (.single ⟨.launch (.turn 0) .quiet, rfl, ?_⟩)
  exact congrArg (Option.map fun world => (⟨world, conf.threads ++ [(.turn 0, turnLogged
    (limitedTo limits) 0)]⟩ : Conf Call String Task World))
    hlaunch

namespace Chatty

variable {deployment : Deployment} {store : Store}

/-- The next word is the session's, as the others are. -/
theorem own_hear (h : Chatty deployment store state clock count) :
    ∀ message ∈ (store.hear count (clock + 60)).messages, message.sessionId = 0 := by
  intro message hmessage
  rcases List.mem_append.mp hmessage with hmessage | hmessage
  · exact h.own message hmessage
  · rw [List.mem_singleton.mp hmessage]

/-- The next word is the last one of the conversation. -/
theorem listMessages_hear (h : Chatty deployment store state clock count) :
    (store.hear count (clock + 60)).listMessages 0 = (store.hear count (clock + 60)).messages := by
  have hown : (store.hear count (clock + 60)).messages.filter (·.sessionId == 0) =
      (store.hear count (clock + 60)).messages := by
    rw [List.filter_eq_self]
    exact fun message hmessage => beq_iff_eq.mpr (h.own_hear message hmessage)
  rw [Store.listMessages, hown]
  refine List.Pairwise.insertionSort_eq (List.pairwise_append.mpr
    ⟨h.sorted, List.pairwise_singleton _ _, fun message hmessage word hword => ?_⟩)
  have := h.past message hmessage
  rw [List.mem_singleton.mp hword]
  exact (Prod.Lex.toLex_lt_toLex.mpr (.inl (show message.createdAt < clock + 60 by omega))).le

/-- What the seller said before was counted before. -/
theorem under (h : Chatty deployment store state clock count)
    (hturn : 0 < deployment.settings.maxMessagesPerTurn) (party : Party) :
    (store.hear count (clock + 60)).messages.countP (fun message => message.isFrom party &&
      decide (message.id > countedUpTo deployment
        (((store.hear count (clock + 60)).listEvents 1).filterMap (strikeOf 0))
        ((store.hear count (clock + 60)).listEvaluations 0))) ≤
          deployment.settings.maxMessagesPerTurn := by
  have hbefore : store.messages.countP (fun message => message.isFrom party &&
      decide (message.id > countedUpTo deployment [] (store.listEvaluations 0))) = 0 := by
    rw [List.countP_eq_zero]
    intro message hmessage hnew
    simp only [Message.isFrom, Bool.and_eq_true, beq_iff_eq, decide_eq_true_eq] at hnew
    have := h.counted message hmessage hnew.1.1
    omega
  have hunstruck := h.unstruck
  rw [show (store.hear count (clock + 60)).listEvents 1 = store.listEvents 1 from rfl, hunstruck,
    show (store.hear count (clock + 60)).listEvaluations 0 = store.listEvaluations 0 from rfl,
    Store.hear, List.countP_append, hbefore]
  refine le_trans ?_ hturn
  rw [Nat.zero_add]
  exact List.countP_le_length

/-- The seller wrote since Serbero last wrote to them. -/
theorem wrote (h : Chatty deployment store state clock count) (session : Session)
    (openedBy : Initiator) :
    ∃ party, (buildState deployment.nip19 session openedBy
      ((store.hear count (clock + 60)).listMessages 0)
      deployment.settings.maxMessageChars).latest party ≠ [] := by
  refine ⟨.seller, (latest_ne_nil_iff .seller).mpr ?_⟩
  rw [h.listMessages_hear]
  exact ⟨store.messages, _, [], rfl, rfl, by simp⟩

/-- Each word is one more character. -/
theorem textLength_hear (h : Chatty deployment store state clock count)
    (hnip19 : deployment.nip19 = fun _ => false) (hchars : 0 < deployment.settings.maxMessageChars)
    (session : Session) (openedBy : Initiator) :
    count < (buildState deployment.nip19 session openedBy
      ((store.hear count (clock + 60)).listMessages 0)
      deployment.settings.maxMessageChars).textLength := by
  have hsum : ∀ messages : List Message, messages.countP (fun message => message.content == "x") ≤
      (messages.map fun message => (truncate (redact deployment.nip19 message.content)
        deployment.settings.maxMessageChars).length).sum := by
    intro messages
    induction messages with
    | nil => exact le_refl 0
    | cons message messages ih =>
      rw [List.countP_cons, List.map_cons, List.sum_cons]
      split
      · next hword =>
        have hlength : (truncate (redact deployment.nip19 message.content)
            deployment.settings.maxMessageChars).length = 1 := by
          rw [beq_iff_eq.mp hword, hnip19, show redact (fun _ => false) "x" = "x" by decide,
            truncate_word hchars]
          rfl
        omega
      · omega
  rw [textLength_buildState, h.listMessages_hear]
  refine lt_of_lt_of_le ?_ (hsum _)
  rw [Store.hear, List.countP_append]
  exact Nat.lt_succ_of_le h.said

/-- Once the turn is recorded, all the seller said is settled. -/
theorem settle (h : Chatty deployment store state clock count)
    (hversion : deployment.turnQuestions ≠ deployment.briefQuestions) (answers : Answers)
    (action : Action) (now : Int) :
    Chatty deployment ((store.hear count (clock + 60)).insertEvaluation
      ⟨0, deployment.turnQuestions,
        Store.newestMessageId ((store.hear count (clock + 60)).listMessages 0), answers, action,
        now⟩) state (clock + 60) (count + 1) where
  session := h.session
  dispute := h.dispute
  own := h.own_hear
  sorted := by
    have hsorted := List.pairwise_insertionSort Message.saidBefore
      ((store.hear count (clock + 60)).messages.filter (·.sessionId == 0))
    have hlist := h.listMessages_hear
    rw [Store.listMessages, conversationOrder] at hlist
    rwa [hlist] at hsorted
  -- The new word is the newest; the ones before it were past already.
  past := by
    intro message hmessage
    rcases List.mem_append.mp hmessage with hmessage | hmessage
    · have := h.past message hmessage
      omega
    · rw [List.mem_singleton.mp hmessage]
  fresh := by
    intro message hmessage number hnumber
    rcases List.mem_append.mp hmessage with hmessage | hmessage
    · exact lt_trans (h.fresh message hmessage number hnumber) (Nat.lt_succ_self count)
    · rw [List.mem_singleton.mp hmessage] at hnumber
      cases hnumber
      exact Nat.lt_succ_self count
  unstruck := h.unstruck
  -- The evaluation reached the newest word, so all of them count as settled.
  counted := by
    intro message hmessage _
    change message ∈ (store.hear count (clock + 60)).messages at hmessage
    rw [← h.listMessages_hear] at hmessage
    refine le_trans (Store.le_newestMessageId hmessage) ?_
    have hnew : (⟨(store.hear count (clock + 60)).evaluations.length + 1, 0,
        deployment.turnQuestions,
        Store.newestMessageId ((store.hear count (clock + 60)).listMessages 0), answers, action,
        now⟩ : Evaluation) ∈ ((store.hear count (clock + 60)).insertEvaluation
          ⟨0, deployment.turnQuestions,
            Store.newestMessageId ((store.hear count (clock + 60)).listMessages 0), answers,
            action, now⟩).listEvaluations 0 :=
      List.mem_filter.mpr ⟨List.mem_append_right _ (List.mem_singleton_self _), rfl⟩
    exact le_countedUpTo [] hnew hversion
  said := by
    show count + 1 ≤ (store.hear count (clock + 60)).messages.countP _
    rw [Store.hear, List.countP_append]
    exact Nat.add_le_add_right h.said 1

end Chatty

/-! ## What the store holds -/

/-- The store once the session opened. -/
def openedStore : Store where
  disputes := [⟨1, .buyer, .initiated, 100, .notified, 1000, some 1000, 1000⟩]
  sessions := [chattySession .active 1000]
  messages :=
    [⟨1, 0, .outbound, .buyer, some .askBuyerSent, some "en", "text", 0, .serbero 1000 "text", 1000⟩,
     ⟨2, 0, .outbound, .seller, some .askSellerReceived, some "en", "text", 0,
       .serbero 1000 "text", 1000⟩]
  events :=
    [⟨1, 1, none, .detected .initiated .buyer, 1000⟩,
     ⟨2, 1, none, .notificationSent 1 "new_dispute", 1000⟩,
     ⟨3, 1, none, .notificationSent 1 "mediation_started", 1000⟩,
     ⟨4, 1, some 0, .mediationOpened, 1000⟩]
  evaluations := []

/-- The store once both parties were told that the seller has the payment. -/
def guidedStore (answers : Answers) : Store :=
  { openedStore with
    sessions := [chattySession .guiding 1060]
    messages := openedStore.messages ++
      [⟨3, 0, .inbound, .seller, none, none, "x", 0, .party 0, 1060⟩,
       ⟨4, 0, .outbound, .seller, some .guideArrivedSeller, some "en", "text", 0,
         .serbero 1060 "text", 1060⟩,
       ⟨5, 0, .outbound, .buyer, some .guideArrivedBuyer, some "en", "text", 0,
         .serbero 1060 "text", 1060⟩]
    events := openedStore.events ++
      [⟨5, 1, some 0, .guided .paymentArrived, 1060⟩,
       ⟨6, 1, some 0, .briefPending (.guide .paymentArrived), 1060⟩,
       ⟨7, 1, none, .notificationSent 1 "brief", 1060⟩,
       ⟨8, 1, none, .notificationSent 1 "transcript", 1060⟩,
       ⟨9, 1, some 0, .briefSent 6, 1060⟩]
    evaluations := [⟨1, 0, "turn", 3, answers, .guide .paymentArrived, 1060⟩] }

/-- The guidance was given, both parties have it, and nothing but words was stored since. -/
structure Guided (store : Store) : Prop where
  sessions : store.sessions = (guidedStore ∅).sessions
  events : store.events = (guidedStore ∅).events
  sent : ∀ entry ∈ guides .paymentArrived,
    store.messages.any (fun message => message.isSent entry.1 entry.2) = true

namespace Guided

variable {store : Store}

/-- The events of the dispute are those of the guidance. -/
theorem listEvents (h : Guided store) : store.listEvents 1 = (guidedStore ∅).listEvents 1 := by
  rw [Store.listEvents, h.events]
  rfl

/-- The path of the guidance is on record. -/
theorem path (h : Guided store) {session : Session} (hid : session.sessionId = 0) :
    guidedPath session (store.listEvents 1) = some .paymentArrived := by
  rw [h.listEvents, guidedPath, hid]
  rfl

/-- One session is live. -/
theorem listLive (h : Guided store) : store.listLive = [chattySession .guiding 1060] := by
  rw [Store.listLive, h.sessions]
  rfl

/-- The dispute is not resolved. -/
theorem unfinishedResolutions (h : Guided store) (since : Int) :
    store.unfinishedResolutions since = [] := by
  have hnone : ∀ event ∈ (guidedStore ∅).events, Store.resolution event = none := by decide
  rw [Store.unfinishedResolutions, h.events, List.filterMap_eq_nil_iff]
  intro event hevent
  exact hnone event (List.mem_of_mem_filter hevent)

/-- No solver waits for an opening notice. -/
theorem stillPending (h : Guided store) :
    store.stillPending .openingNoticePending .openingNoticeSent 0 = [] := by
  rw [Store.stillPending, h.events]
  rfl

/-- Another word takes nothing back. -/
theorem hear (h : Guided store) (count : Nat) (clock : Int) : Guided (store.hear count clock) where
  sessions := h.sessions
  events := h.events
  sent := by
    intro entry hentry
    show (store.hear count clock).messages.any _ = true
    rw [Store.hear, List.any_append, h.sent entry hentry, Bool.true_or]

/-- Both parties have the guidance as their session has it. -/
theorem got (h : Guided store) (hown : ∀ message ∈ store.messages, message.sessionId = 0) :
    ∀ entry ∈ guides .paymentArrived,
      (store.listMessages 0).any (fun message => message.isSent entry.1 entry.2) = true := by
  intro entry hentry
  obtain ⟨message, hmessage, hsent⟩ := List.any_eq_true.mp (h.sent entry hentry)
  exact List.any_eq_true.mpr
    ⟨message, Store.mem_listMessages.mpr ⟨hmessage, hown message hmessage⟩, hsent⟩

/-- The timers let the session be until it watched for long enough. -/
theorem check (h : Guided store) (response grace : Nat) {timeout : Nat} {now : Int}
    (hearly : now < saturatingAdd 1060 (secs timeout)) (messages : List Message) :
    (clocks (chattySession .guiding 1060) messages (store.listEvents 1) now).check
      ⟨response, timeout, grace⟩ = .nothing := by
  have hguided : (guidedTimes 0 (store.listEvents 1)).max? = some 1060 := by
    rw [h.listEvents]
    rfl
  have hnot : ¬now ≥ saturatingAdd 1060 (secs timeout) := by omega
  show (if (guidedTimes 0 (store.listEvents 1)).max?.any fun at' =>
    decide (now ≥ saturatingAdd at' (secs timeout)) then
      Timer.handoff .selfResolutionStalled else .nothing) = .nothing
  rw [hguided, Option.any_some, decide_eq_false hnot, if_neg Bool.false_ne_true]

end Guided

/-- Nothing but the store was read in between. -/
def World.Looked (world later : World) : Prop := { later with looks := world.looks } = world

/-- A look leaves all but the looks. -/
theorem World.looked_look (world : World) (number : Nat) : world.Looked (world.look number) := rfl

/-- Whatever is read of the world but the looks is the same. -/
theorem World.Looked.congr {α : Type} {world later : World} (h : world.Looked later)
    (read : World → α) (hread : ∀ world looks, read { world with looks := looks } = read world) :
    read later = read world := by
  rw [World.Looked] at h
  rw [← hread later world.looks, h]

/-- One look after another. -/
theorem World.Looked.trans {world later last : World} (h : world.Looked later)
    (h' : later.Looked last) : world.Looked last := by
  have hlast : { last with looks := world.looks } =
      { { last with looks := later.looks } with looks := world.looks } := rfl
  rw [World.Looked, hlast, h', h]

/-- A store put in its place forgets which looks came before. -/
theorem World.Looked.withStore {world later : World} (h : world.Looked later) (store : Store) :
    later.withStore store = { world with looks := later.looks, store := store } := by
  rw [World.Looked] at h
  rw [← h]
  rfl

/-! ## One turn -/

section turn

variable {world : World} {thread : Thread Task} {phase : Phase}

/-- Guidance both parties have is not sent again. -/
theorem stretch_hasGuides (hguided : Guided world.store)
    (hown : ∀ message ∈ world.store.messages, message.sessionId = 0) (updatedAt : Int) :
    ∃ later, world.Looked later ∧
      Stretch (limitedTo limits) thread
        (resendGuides (limitedTo limits) (chattySession .guiding updatedAt)) world (done 0) later :=
  ⟨_, ((world.looked_look _).trans (World.looked_look _ _)).trans (World.looked_look _ _),
    stretch_resendGuides (hguided.path rfl) (hguided.got hown)⟩

/-- What a turn does once it ended. -/
def joinAfter : Except String TurnOutcome → Daemon Unit
  | .ok (.deferred _) => perform (.joinTurn true)
  | _ => perform (.joinTurn false)

/-- A turn in the loop: the time, the turn, and the end of its task. -/
theorem turnLogged_eq (deployment : Deployment) (id : SessionId) :
    turnLogged deployment id = (perform .now).bind fun now =>
      (attempt (runTurn deployment id now)).bind joinAfter := rfl

/-- The conversation the judge is given in this turn. -/
def Store.heardState (deployment : Deployment) (store : Store) (state : SessionState)
    (updatedAt : Int) (openedBy : Initiator) : JudgeState :=
  buildState deployment.nip19 (chattySession state updatedAt) openedBy (store.listMessages 0)
    deployment.settings.maxMessageChars

/-- What loading the session gives. -/
theorem Chatty.load {deployment : Deployment} {store : Store}
    (h : Chatty deployment store state clock count) :
    ∃ updatedAt openedBy, store.session 0 = some (chattySession state updatedAt) ∧
      (store.hear count (clock + 60)).load 0 = some (chattySession state updatedAt,
        (store.hear count (clock + 60)).listMessages 0, openedBy) := by
  obtain ⟨updatedAt, hsession⟩ := h.session
  obtain ⟨row, hdispute⟩ := h.dispute
  refine ⟨updatedAt, row.initiator, hsession, ?_⟩
  have hsame : (store.hear count (clock + 60)).session 0 = store.session 0 := rfl
  have hrow : (store.hear count (clock + 60)).dispute 1 = store.dispute 1 := rfl
  rw [Store.load, hsame, hsession, Option.bind_some]
  show ((store.hear count (clock + 60)).dispute 1).map _ = _
  rw [hrow, hdispute]
  rfl

/-- The turn of the next word comes to the judge: whatever came before is settled, and guidance is
where it belongs. -/
theorem stretch_runTurn (hturn : 0 < limits.maxMessagesPerTurn)
    {store : Store}
    (hchatty : Chatty (limitedTo limits) store state clock
      count)
    (hstore : world.store = store.hear count (clock + 60)) (hready : world.judgeReady = true)
    (hphase : phaseOf state = some phase) (hguided : phase = .guiding → Guided store) (now : Int) :
    ∃ updatedAt openedBy later,
      store.session 0 = some (chattySession state updatedAt) ∧
      world.Looked later ∧
      Stretch (limitedTo limits) thread
        (runTurn (limitedTo limits) 0 now) world
        (judgeTurn (limitedTo limits)
          (chattySession state updatedAt) ((store.hear count (clock + 60)).listMessages 0) phase
          ((store.hear count (clock + 60)).heardState
            (limitedTo limits) state updatedAt openedBy) now)
        later := by
  obtain ⟨updatedAt, openedBy, hsession, hload⟩ := hchatty.load
  rw [← hstore] at hload
  -- Wherever the turn gets to the judge from, it gets there the same way.
  have hmediating : ∀ later : World, later.store = world.store → later.judgeReady = true →
      Stretch (limitedTo limits) thread
        (mediatingTurn (limitedTo limits)
          (chattySession state updatedAt) ((store.hear count (clock + 60)).listMessages 0) openedBy
          now) later
        (judgeTurn (limitedTo limits)
          (chattySession state updatedAt) ((store.hear count (clock + 60)).listMessages 0) phase
          ((store.hear count (clock + 60)).heardState
            (limitedTo limits) state updatedAt openedBy) now)
        (later.look thread.number) := by
    intro later hsame hlater
    refine stretch_mediatingTurn hlater hphase (hchatty.wrote _ _) fun party => ?_
    rw [hsame, hstore, hchatty.listMessages_hear]
    exact hchatty.under hturn party
  have hlist : (store.hear count (clock + 60)).listMessages 0 = world.store.listMessages 0 := by
    rw [hstore]
  cases phase with
  | gathering =>
    have hactive : state = .active := by
      cases state <;> first | rfl | cases hphase
    subst hactive
    refine ⟨updatedAt, openedBy, _, hsession, (world.looked_look thread.number).trans
      (World.looked_look _ thread.number), stretch_bind (stretch_load 0) ?_⟩
    rw [hload, ← hlist]
    exact hmediating (world.look thread.number) rfl hready
  | guiding =>
    have hactive : state = .guiding := by
      cases state <;> first | rfl | cases hphase
    subst hactive
    have hearGuided : Guided (world.look thread.number).store := by
      rw [show (world.look thread.number).store = world.store from rfl, hstore]
      exact (hguided rfl).hear count (clock + 60)
    have hown : ∀ message ∈ (world.look thread.number).store.messages, message.sessionId = 0 := by
      rw [show (world.look thread.number).store = world.store from rfl, hstore]
      exact hchatty.own_hear
    obtain ⟨again, hagain, hresend⟩ := @stretch_hasGuides limits (world.look thread.number) thread
      hearGuided hown updatedAt
    have hlooked : world.Looked again := (world.looked_look _).trans hagain
    have hsame : again.store = world.store := hlooked.congr World.store fun _ _ => rfl
    have hagainReady : again.judgeReady = true :=
      (hlooked.congr World.judgeReady fun _ _ => rfl).trans hready
    refine ⟨updatedAt, openedBy, _, hsession, hlooked.trans (World.looked_look _ thread.number),
      stretch_bind (stretch_load 0) ?_⟩
    rw [hload, ← hlist]
    exact stretch_bind hresend.attempt (hmediating again hsame hagainReady)

end turn

/-! ## The next word -/

/-- The turn of the next word, from its start to its question to the judge. -/
theorem stretch_turnLogged (hturn : 0 < limits.maxMessagesPerTurn) {world : World} {store : Store}
    {thread : Thread Task} {phase : Phase}
    (hchatty : Chatty (limitedTo limits) store state clock
      count)
    (hstore : world.store = store.hear count (clock + 60)) (hready : world.judgeReady = true)
    (hclock : world.clock = clock + 60) (hphase : phaseOf state = some phase)
    (hguided : phase = .guiding → Guided store) :
    ∃ updatedAt openedBy later,
      store.session 0 = some (chattySession state updatedAt) ∧
      world.Looked later ∧
      Stretch (limitedTo limits) thread
        (turnLogged (limitedTo limits) 0) world
        ((judgeTurn (limitedTo limits)
          (chattySession state updatedAt) ((store.hear count (clock + 60)).listMessages 0) phase
          ((store.hear count (clock + 60)).heardState
            (limitedTo limits) state updatedAt openedBy)
          (clock + 60)).attempt.bind joinAfter) later := by
  obtain ⟨updatedAt, openedBy, later, hsession, hlooked, hrun⟩ :=
    @stretch_runTurn limits state clock count world thread
      phase hturn store hchatty hstore hready hphase hguided (clock + 60)
  refine ⟨updatedAt, openedBy, later, hsession, hlooked, ?_⟩
  rw [turnLogged_eq]
  have hnow := @stretch_now (limitedTo limits) thread world
  rw [hclock] at hnow
  exact stretch_bind hnow (hrun.attempt.bind joinAfter)

/-- The judging of a turn starts with the question to the judge. -/
theorem exists_evaluate (deployment : Deployment) (session : Session) (messages : List Message)
    (phase : Phase) (asked : JudgeState) (now : Int) :
    ∃ next, (judgeTurn deployment session messages phase asked now).attempt.bind joinAfter =
      Program.call (.evaluate asked) next := ⟨_, rfl⟩

/-- The judge is asked about all that was said. -/
theorem asksJudge_hear (hchars : 0 < limits.maxMessageChars) (hturn : 0 < limits.maxMessagesPerTurn)
    {phase : Phase} (hpaused : conf.world.Paused clock)
    (hchatty : Chatty (limitedTo limits) conf.world.store
      state clock count) (hphase : phaseOf state = some phase)
    (hguided : phase = .guiding → Guided conf.world.store) :
    ∃ conf' asked, (machine (limitedTo limits)).RunsTo
        withinLimits conf conf' ∧
      AsksJudge conf' asked ∧ count < asked.textLength := by
  have hlive : state.isTerminal = false := by
    cases state <;> first | rfl | cases hphase
  have hhear := runsTo_hear hchars hpaused hchatty hlive
  obtain ⟨updatedAt, openedBy, later, -, -, hlogged⟩ :=
    @stretch_turnLogged limits state clock count hturn
      (conf.world.hear count (clock + 60) conf.threads.length) conf.world.store
      ⟨conf.threads.length, .turn 0⟩ phase hchatty rfl hpaused.ready rfl hphase hguided
  have hthread : (conf.threads ++ [(Task.turn 0, turnLogged
      (limitedTo limits) 0)])[conf.threads.length]? =
        some (.turn 0, turnLogged (limitedTo limits) 0) := by
    simp
  obtain ⟨next, hnext⟩ := exists_evaluate
    (limitedTo limits) (chattySession state updatedAt)
    ((conf.world.store.hear count (clock + 60)).listMessages 0) phase
    ((conf.world.store.hear count (clock + 60)).heardState
      (limitedTo limits) state updatedAt openedBy)
    (clock + 60)
  refine ⟨_, (conf.world.store.hear count (clock + 60)).heardState
    (limitedTo limits) state updatedAt openedBy,
    hhear.trans (hlogged.runsTo rfl hthread), ⟨conf.threads.length, .turn 0, next, ?_⟩, ?_⟩
  · rw [← hnext]
    exact List.getElem?_set_self (by simp)
  · exact hchatty.textLength_hear rfl hchars _ _

/-- The store once the turn of the next word is recorded. -/
def Store.settled (deployment : Deployment) (store : Store) (answers : Answers) (action : Action)
    (now : Int) : Store :=
  store.insertEvaluation
    { sessionId := 0
      questionSetVersion := deployment.turnQuestions
      lastMessageId := Store.newestMessageId (store.listMessages 0)
      answers := answers
      action := action
      now := now }

/-- The judge is sure, so the turn decides as it does on sure facts. -/
theorem stretch_sure {thread : Thread Task} {later : World} {updatedAt now : Int} {phase : Phase}
    {asked : JudgeState} {action : Action} (guiding : Bool)
    (hsession : later.store.session 0 = some (chattySession state updatedAt))
    (hdecide : (turnOf (limitedTo limits).settings
      (limitedTo limits).thresholds.validatedLanguages phase
      (chattySession state updatedAt) (later.store.listMessages 0)
      (later.store.listEvents (chattySession state updatedAt).disputeId) sureFacts []).decide =
        action) :
    ∃ reading next looks,
      Stretch (limitedTo limits) thread
        (judgeTurn (limitedTo limits)
          (chattySession state updatedAt) (later.store.listMessages 0) phase asked now) later
        ((act (limitedTo limits)
          (chattySession state updatedAt) reading next now action).bind
            fun _ => done (.decided action))
        { later with
          looks := looks
          store := later.store.settled
            (limitedTo limits) (sureAnswers guiding) action
            now } := by
  have hfacts : Facts.fromAnswers (sureAnswers guiding)
      (limitedTo limits).thresholds
      (limitedTo limits).settings.languages = sureFacts :=
    fromAnswers_sureAnswers guiding
  -- The seller's language is the one it is served in, so nothing switches.
  have hsame : ∀ party, detectedLanguage
      (limitedTo limits) (chattySession state updatedAt)
      (Facts.fromAnswers (sureAnswers guiding)
        (limitedTo limits).thresholds
        (limitedTo limits).settings.languages) party =
          none := by
    rw [hfacts]
    intro party
    cases party <;> rfl
  have hjudged := @stretch_judgeTurn (limitedTo limits)
    thread later (chattySession state updatedAt) (later.store.listMessages 0) now phase asked
    (sureAnswers guiding) hsession rfl hsame
  dsimp only at hjudged
  rw [hfacts, hdecide] at hjudged
  -- The turn looks at the store four times and writes one evaluation.
  have hlooked : later.Looked ((((later.look thread.number).look thread.number).look
      thread.number).look thread.number) :=
    (((later.looked_look _).trans (World.looked_look _ _)).trans (World.looked_look _ _)).trans
      (World.looked_look _ _)
  rw [hlooked.withStore] at hjudged
  exact ⟨_, _, _, hjudged⟩

/-- The one turn that runs is over, and nothing is due. -/
theorem World.turnOver_single {world : World} {thread : Nat} (hrunning : world.running = [(thread, 0)])
    (hdue : world.dueAgain = []) :
    world.turnOver thread false = { world with running := [] } := by
  simp [World.turnOver, hrunning, hdue]

/-- The end of a turn leaves the store. -/
theorem World.store_turnOver (world : World) (thread : Nat) (again : Bool) :
    (world.turnOver thread again).store = world.store := by
  obtain ⟨running, dueAgain, deadlines, hover⟩ := world.turnOver_eq thread again
  rw [hover]

/-- A turn of the session is all that is under way. -/
structure World.InTurn (world : World) (clock : Int) (thread : Nat) : Prop where
  clock : world.clock = clock
  ready : world.judgeReady = true
  chats : world.openChats = [0]
  announced : world.announced = []
  deadlines : world.deadlines = []
  dueAgain : world.dueAgain = []
  running : world.running = [(thread, 0)]
  ticking : world.ticking = none

/-- The turn of the next word is under way, whatever it read and stored. -/
theorem World.Looked.inTurn {world later : World} {thread : Nat}
    (h : (world.hear count (clock + 60) thread).Looked later) (hpaused : world.Paused clock)
    (looks : List Look) (store : Store) :
    { later with looks := looks, store := store }.InTurn (clock + 60) thread where
  clock := h.congr World.clock fun _ _ => rfl
  ready := (h.congr World.judgeReady fun _ _ => rfl).trans hpaused.ready
  chats := (h.congr World.openChats fun _ _ => rfl).trans hpaused.chats
  announced := h.congr World.announced fun _ _ => rfl
  deadlines := h.congr World.deadlines fun _ _ => rfl
  dueAgain := (h.congr World.dueAgain fun _ _ => rfl).trans hpaused.dueAgain
  running := h.congr World.running fun _ _ => rfl
  ticking := (h.congr World.ticking fun _ _ => rfl).trans hpaused.ticking

/-- Once the turn is over, nothing is under way. -/
theorem World.InTurn.turnOver {world : World} {thread : Nat} (h : world.InTurn clock thread) :
    (world.turnOver thread false).Paused clock := by
  rw [World.turnOver_single h.running h.dueAgain]
  exact ⟨h.clock, h.ready, h.chats, h.announced, h.deadlines, h.dueAgain, rfl, h.ticking⟩

/-- The watching session waits: the turn answers nothing, and all that was said is settled. -/
theorem runsTo_wait (hchars : 0 < limits.maxMessageChars) (hturn : 0 < limits.maxMessagesPerTurn)
    (hpaused : conf.world.Paused clock)
    (hchatty : Chatty (limitedTo limits) conf.world.store
      .guiding clock count) (hguided : Guided conf.world.store) :
    ∃ conf', (machine (limitedTo limits)).RunsTo
        withinLimits conf conf' ∧
      conf'.world.Paused (clock + 60) ∧
      Chatty (limitedTo limits) conf'.world.store
        .guiding (clock + 60) (count + 1) ∧
      Guided conf'.world.store ∧ timerPasses conf' = timerPasses conf := by
  have hhear := runsTo_hear hchars hpaused hchatty rfl
  -- The turn reads the word, asks the judge, and waits.
  obtain ⟨updatedAt, openedBy, later, hsession, hlooked, hlogged⟩ :=
    @stretch_turnLogged limits .guiding clock count hturn
      (conf.world.hear count (clock + 60) conf.threads.length) conf.world.store
      ⟨conf.threads.length, .turn 0⟩ .guiding hchatty rfl hpaused.ready rfl rfl fun _ => hguided
  have hthread : (conf.threads ++ [(Task.turn 0, turnLogged
      (limitedTo limits) 0)])[conf.threads.length]? =
        some (.turn 0, turnLogged (limitedTo limits) 0) := by
    simp
  have hstore : later.store = conf.world.store.hear count (clock + 60) :=
    hlooked.congr World.store fun _ _ => rfl
  obtain ⟨reading, next, looks, hwaited⟩ :=
    @stretch_sure limits .guiding
      ⟨conf.threads.length, .turn 0⟩ later updatedAt (clock + 60) .guiding
      ((conf.world.store.hear count (clock + 60)).heardState
        (limitedTo limits) .guiding updatedAt openedBy)
      .wait true (by rw [hstore]; exact hsession)
      (decide_guiding _ _ _ _ _)
  rw [hstore] at hwaited
  -- Nothing came meanwhile, so the turn is not due again.
  have hturnEnds := (hwaited.attempt.bind joinAfter).trans (stretch_joinTurn false)
  refine ⟨_, hhear.trans ((hlogged.trans hturnEnds).runsTo rfl hthread),
    (hlooked.inTurn hpaused looks _).turnOver, ?_, ?_, by simp [timerPasses]⟩
  · show Chatty _ (World.turnOver _ _ _).store _ _ _
    rw [World.store_turnOver]
    exact hchatty.settle
      (show smallDeployment.turnQuestions ≠ smallDeployment.briefQuestions by decide) _ _ _
  · show Guided (World.turnOver _ _ _).store
    rw [World.store_turnOver]
    exact ⟨hguided.sessions, hguided.events, (hguided.hear count (clock + 60)).sent⟩

/-! ## How the session comes to watch -/

/-- The session opens. -/
theorem runsTo_opened :
    ∃ conf, (machine (limitedTo limits)).RunsTo withinLimits
        (Serbero.start 1000) conf ∧
      conf.world.Paused 1000 ∧ conf.world.store = openedStore ∧ timerPasses conf = 0 := by
  have hopened : ((machine (limitedTo limits)).runAll
      withinLimits (Serbero.start 1000) openedSteps).isSome = true ∧
      let world := ((machine (limitedTo limits)).after
        withinLimits (Serbero.start 1000) openedSteps).world
      timerPasses ((machine (limitedTo limits)).after withinLimits (Serbero.start 1000) openedSteps) = 0 ∧
      world.store = openedStore ∧ world.clock = 1000 ∧ world.judgeReady = true ∧
        world.openChats = [0] ∧ world.announced = [] ∧ world.deadlines = [] ∧
        world.dueAgain = [] ∧ world.running = [] ∧ world.ticking = none := by
    cbv
    exact ⟨rfl, trivial⟩
  obtain ⟨hsome, hpasses, hstore, hclock, hready, hchats, hannounced, hdeadlines, hdue, hrunning,
    hticking⟩ := hopened
  exact ⟨_, Machine.runsTo_after _ hsome,
    ⟨hclock, hready, hchats, hannounced, hdeadlines, hdue, hrunning, hticking⟩, hstore,
    hpasses⟩

/-- The opened session has no message of a party. -/
theorem chatty_opened :
    Chatty (limitedTo limits) openedStore .active 1000 0 where
  session := ⟨1000, rfl⟩
  dispute := ⟨_, rfl⟩
  own := by decide
  sorted := by decide
  past := by decide
  fresh := by
    intro message hmessage number hnumber
    rcases List.mem_pair.mp hmessage with rfl | rfl <;> cases hnumber
  unstruck := rfl
  counted := by
    intro message hmessage hinbound
    rcases List.mem_pair.mp hmessage with rfl | rfl <;> cases hinbound
  said := Nat.zero_le _

/-- The judge has no answer for the brief. -/
def withoutBrief : {α : Type} → Call α → Oracle
  | _, .evaluate _ => { Oracle.quiet with fails := some "down" }
  | _, _ => .quiet

/-- What guidance does, call by call. -/
theorem alone_guide (answers : Answers) (world : World) (thread : Thread Task)
    (reading : TurnReading) (next : NextQuestions) :
    ((machine (limitedTo limits)).alone withinLimits thread
      withoutBrief
      (act (limitedTo limits) (chattySession .active 1000)
        reading next 1060 (.guide .paymentArrived))
      { world with
        store := (openedStore.hear 0 1060).settled
          (limitedTo limits) answers (.guide .paymentArrived)
          1060
        clock := 1060
        judgeReady := true }).map (fun ended =>
          (ended.1, ended.2.store, ended.2.clock, ended.2.judgeReady, ended.2.openChats,
            ended.2.announced, ended.2.deadlines, ended.2.dueAgain, ended.2.running,
            ended.2.ticking)) =
      some (.ok (), guidedStore answers, 1060, true, world.openChats, world.announced,
        world.deadlines, world.dueAgain, world.running, world.ticking) := by
  cbv

/-- A world is what its fields are. -/
theorem World.eq_of_fields {world : World} {store : Store} {clock : Int}
    (hstore : world.store = store) (hclock : world.clock = clock)
    (hready : world.judgeReady = true) :
    { world with store := store, clock := clock, judgeReady := true } = world := by
  cases world
  cases hstore
  cases hclock
  cases hready
  rfl

/-- What guidance comes to. -/
theorem stretch_guide {answers : Answers} {world : World} {thread : Thread Task}
    {reading : TurnReading} {next : NextQuestions}
    (hstore : world.store = (openedStore.hear 0 1060).settled
      (limitedTo limits) answers (.guide .paymentArrived)
      1060) (hturn : world.InTurn 1060 thread.number) :
    ∃ ended : World, ended.store = guidedStore answers ∧ ended.InTurn 1060 thread.number ∧
      Stretch (limitedTo limits) thread
        (act (limitedTo limits) (chattySession .active 1000)
          reading next 1060 (.guide .paymentArrived)) world (done ()) ended := by
  have halone := @alone_guide limits answers world thread
    reading next
  rw [World.eq_of_fields hstore hturn.clock hturn.ready] at halone
  obtain ⟨⟨result, ended⟩, hended, hfields⟩ := Option.map_eq_some_iff.mp halone
  simp only [Prod.mk.injEq] at hfields
  obtain ⟨rfl, hguided, hclock, hready, hchats, hannounced, hdeadlines, hdue, hrunning, hticking⟩ :=
    hfields
  exact ⟨ended, hguided, ⟨hclock, hready, hchats.trans hturn.chats,
    hannounced.trans hturn.announced, hdeadlines.trans hturn.deadlines, hdue.trans hturn.dueAgain,
    hrunning.trans hturn.running, hticking.trans hturn.ticking⟩,
    Machine.alone_of_eq _ _ _ hended⟩

/-- The guided session has the one message that the guidance answered. -/
theorem chatty_guided (answers : Answers) :
    Chatty (limitedTo limits) (guidedStore answers) .guiding
      1060 1 where
  session := ⟨1060, rfl⟩
  dispute := ⟨_, rfl⟩
  own := by
    show ∀ message ∈ (guidedStore ∅).messages, _
    decide
  sorted := by
    show (guidedStore ∅).messages.Pairwise _
    decide
  past := by
    show ∀ message ∈ (guidedStore ∅).messages, _
    decide
  fresh := by
    intro message hmessage number hnumber
    simp only [guidedStore, openedStore, List.cons_append, List.nil_append, List.mem_cons,
      List.not_mem_nil, or_false] at hmessage
    rcases hmessage with rfl | rfl | rfl | rfl | rfl <;> cases hnumber
    exact Nat.zero_lt_one
  unstruck := rfl
  counted := by
    have hcounted : ∀ message ∈ (guidedStore ∅).messages, message.direction = .inbound →
        message.id ≤ 3 := by decide
    intro message hmessage hinbound
    exact hcounted message hmessage hinbound
  said := by
    show 1 ≤ (guidedStore ∅).messages.countP _
    decide

/-- Guiding it, no timer is due and nothing is left to be sent. -/
theorem guided_guided (answers : Answers) : Guided (guidedStore answers) where
  sessions := rfl
  events := rfl
  sent := by
    show ∀ entry ∈ guides .paymentArrived, (guidedStore ∅).messages.any _ = true
    decide

/-- The first word says that the payment arrived: the session guides both parties, and watches them
from then on. -/
theorem runsTo_guided (hchars : 0 < limits.maxMessageChars) (hturn : 0 < limits.maxMessagesPerTurn) :
    ∃ conf, (machine (limitedTo limits)).RunsTo withinLimits
        (Serbero.start 1000) conf ∧
      conf.world.Paused 1060 ∧
      Chatty (limitedTo limits) conf.world.store .guiding
        1060 1 ∧
      Guided conf.world.store ∧ timerPasses conf = 0 := by
  -- The session opens, its seller says one word, and the turn that hears it guides both.
  obtain ⟨conf, hopened, hpaused, hstart, hpasses⟩ := @runsTo_opened limits
  have hchatty := @chatty_opened limits
  rw [← hstart] at hchatty
  have hhear := runsTo_hear hchars hpaused hchatty rfl
  obtain ⟨updatedAt, openedBy, later, hsession, hlooked, hlogged⟩ :=
    @stretch_turnLogged limits .active 1000 0 hturn
      (conf.world.hear 0 (1000 + 60) conf.threads.length) conf.world.store
      ⟨conf.threads.length, .turn 0⟩ .gathering hchatty rfl hpaused.ready rfl rfl (by nofun)
  have hthread : (conf.threads ++ [(Task.turn 0, turnLogged
      (limitedTo limits) 0)])[conf.threads.length]? =
        some (.turn 0, turnLogged (limitedTo limits) 0) := by
    simp
  have hstore : later.store = conf.world.store.hear 0 (1000 + 60) :=
    hlooked.congr World.store fun _ _ => rfl
  obtain ⟨reading, next, looks, hguides⟩ :=
    @stretch_sure limits .active
      ⟨conf.threads.length, .turn 0⟩ later updatedAt (1000 + 60) .gathering
      ((conf.world.store.hear 0 (1000 + 60)).heardState
        (limitedTo limits) .active updatedAt openedBy)
      (.guide .paymentArrived) false (by rw [hstore]; exact hsession)
      (decide_gathering _ _ _ _ rfl rfl)
  rw [hstore] at hguides
  -- Nothing has written the session's row since it opened.
  have hupdated : updatedAt = 1000 := by
    rw [hstart] at hsession
    exact congrArg Session.updatedAt (Option.some.inj hsession).symm
  subst hupdated
  obtain ⟨ended, hguided, hturnEnded, hact⟩ := @stretch_guide limits (sureAnswers false) _ ⟨conf.threads.length, .turn 0⟩ reading next
    (by rw [hstart]; rfl) (hlooked.inTurn hpaused looks
      ((conf.world.store.hear 0 (1000 + 60)).settled
        (limitedTo limits) (sureAnswers false)
        (.guide .paymentArrived) (1000 + 60)))
  have hturnEnds := ((hguides.trans (hact.bind _)).attempt.bind joinAfter).trans
    (stretch_joinTurn false)
  refine ⟨_, hopened.trans (hhear.trans ((hlogged.trans hturnEnds).runsTo rfl hthread)),
    hturnEnded.turnOver, ?_, ?_, by simpa [timerPasses] using hpasses⟩
  · show Chatty _ (World.turnOver _ _ _).store _ _ _
    rw [World.store_turnOver, hguided]
    exact chatty_guided _
  · show Guided (World.turnOver _ _ _).store
    rw [World.store_turnOver, hguided]
    exact guided_guided _

/-! ## A pass of the timers -/

section tick

variable {world : World} {thread : Thread Task} {now : Int}

/-- Its chat is open, so a pass has nothing to open. -/
theorem stretch_chatOpen (hchats : world.openChats = [0]) :
    Stretch (limitedTo limits) thread (chatOpen (chattySession .guiding 1060)) world (done true)
      world := by
  have hopen : world.openChats.contains 0 = true := by
    rw [hchats]
    rfl
  have hasked : Stretch (limitedTo limits) thread (perform (.chatIsOpen 0)) world
      (done (world.openChats.contains 0)) world :=
    Machine.Alone.perform Oracle.quiet rfl rfl
  rw [hopen] at hasked
  refine stretch_bind hasked ?_
  rw [if_pos rfl]
  exact .refl _ _

/-- The timers of the watching session have nothing to do. -/
theorem stretch_timeSession (hchats : world.openChats = [0]) (hguided : Guided world.store)
    (hearly : now < saturatingAdd 1060 (secs limits.selfResolutionTimeout)) :
    ∃ later, world.Looked later ∧
      Stretch (limitedTo limits) thread
        (timeSession (limitedTo limits) (chattySession .guiding 1060) now) world (done ())
        later := by
  have hopen := @stretch_chatOpen limits world thread hchats
  have htimeout : (limitedTo limits).settings.selfResolutionTimeout = limits.selfResolutionTimeout :=
    rfl
  rw [← htimeout] at hearly
  have hcheck : (clocks (chattySession .guiding 1060) (world.store.listMessages 0)
      (world.store.listEvents 1) now).check
        ⟨(limitedTo limits).settings.responseTimeout,
          (limitedTo limits).settings.selfResolutionTimeout,
          (limitedTo limits).settings.handoffGrace⟩ = .nothing :=
    hguided.check _ _ hearly _
  refine ⟨_, world.looked_look thread.number, stretch_bind hopen ?_⟩
  rw [if_pos rfl]
  refine stretch_bind (stretch_read _) ?_
  dsimp only [chattySession_sessionId, chattySession_disputeId]
  rw [hcheck]
  exact .refl _ _

/-- Nothing the watching session sent is missing. -/
theorem stretch_retryUndelivered (hguided : Guided world.store)
    (hown : ∀ message ∈ world.store.messages, message.sessionId = 0) :
    ∃ later, world.Looked later ∧
      Stretch (limitedTo limits) thread
        (retryUndelivered (limitedTo limits) (chattySession .guiding 1060) now) world (done ())
        later := by
  have hbriefs : pendingBriefs (chattySession .guiding 1060) (world.store.listEvents 1) = [] := by
    rw [hguided.listEvents]
    rfl
  by_cases hearly : (startedAt (chattySession .guiding 1060) (world.store.listEvents 1)).any
      (fun at' => decide (now - at' < retryGraceSecs)) = true
  · refine ⟨_, world.looked_look thread.number, stretch_bind (stretch_read _) ?_⟩
    dsimp only [chattySession_sessionId, chattySession_disputeId]
    rw [if_pos hearly]
    exact .refl _ _
  · obtain ⟨later, hlooked, hresend⟩ := @stretch_hasGuides limits (world.look thread.number) thread
      hguided hown 1060
    refine ⟨later, (world.looked_look _).trans hlooked, stretch_bind (stretch_read _) ?_⟩
    dsimp only [chattySession_sessionId, chattySession_disputeId]
    rw [if_neg hearly, hbriefs]
    exact stretch_bind (.refl _ _) (stretch_bind hresend (.refl _ _))

/-- No closing is left over. -/
theorem stretch_finishPending (hguided : Guided world.store) (since : Int) :
    Stretch (limitedTo limits) thread (finishPending (limitedTo limits) since now) world (done ())
      (world.look thread.number) := by
  refine stretch_bind (stretch_read _).attempt ?_
  rw [hguided.unfinishedResolutions]
  exact .refl _ _

/-- No opening notice is left over. -/
theorem stretch_retryOpeningNotices (hguided : Guided world.store) :
    Stretch (limitedTo limits) thread (retryOpeningNotices (limitedTo limits) now) world (done ())
      (world.look thread.number) := by
  refine stretch_bind (stretch_read _).attempt ?_
  rw [hguided.stillPending]
  exact .refl _ _

/-- A pass of the timers changes nothing. -/
theorem stretch_tick (hchats : world.openChats = [0]) (hguided : Guided world.store)
    (hown : ∀ message ∈ world.store.messages, message.sessionId = 0)
    (hearly : now < saturatingAdd 1060 (secs limits.selfResolutionTimeout)) :
    ∃ later, world.Looked later ∧
      Stretch (limitedTo limits) thread (tick (limitedTo limits) now) world (done ()) later := by
  obtain ⟨timed, htimed, htime⟩ := @stretch_timeSession limits (world.look thread.number) thread now
    hchats hguided hearly
  have hlooked := (world.looked_look thread.number).trans htimed
  have hstore : timed.store = world.store := hlooked.congr World.store fun _ _ => rfl
  obtain ⟨retried, hretried, hretry⟩ := @stretch_retryUndelivered limits timed thread now
    (hstore ▸ hguided) (hstore ▸ hown)
  have hlooked' := hlooked.trans hretried
  have hstore' : retried.store = world.store := hlooked'.congr World.store fun _ _ => rfl
  refine ⟨_, (hlooked'.trans (retried.looked_look thread.number)).trans
    (World.looked_look _ thread.number), stretch_bind (stretch_read _) ?_⟩
  rw [hguided.listLive]
  have hlive : Stretch (limitedTo limits) thread
      (tickLive (limitedTo limits) now (chattySession .guiding 1060)) (world.look thread.number)
      (done ()) retried :=
    stretch_bind htime.attempt (stretch_bind hretry.attempt (.refl _ _))
  have hretriedGuided : Guided retried.store := by rwa [hstore']
  exact stretch_bind (stretch_bind hlive (.refl _ _))
    (stretch_bind (stretch_finishPending hretriedGuided _)
      (stretch_retryOpeningNotices hretriedGuided))

end tick

/-- A pass of the timers goes by and leaves everything as it was. -/
theorem runsTo_pass (hpaused : conf.world.Paused clock)
    (hchatty : Chatty (limitedTo limits) conf.world.store .guiding clock count)
    (hguided : Guided conf.world.store)
    (hearly : clock < saturatingAdd 1060 (secs limits.selfResolutionTimeout)) :
    ∃ conf', (machine (limitedTo limits)).RunsTo withinLimits conf conf' ∧
      conf'.world.Paused clock ∧ conf'.world.store = conf.world.store ∧
      timerPasses conf' = timerPasses conf + 1 := by
  let number := conf.threads.length
  let ticking : World := { conf.world with ticking := some number }
  -- No pass is under way, so one may start.
  have hlaunch : launch ⟨number, .tick⟩ conf.world = some ticking := by
    simp only [launch, hpaused.ticking]
    rfl
  -- The pass finds the session too early for its timer and nothing to send again.
  obtain ⟨later, hlooked, htick⟩ := @stretch_tick limits ticking ⟨number, .tick⟩ clock hpaused.chats
    hguided hchatty.own hearly
  have hnow := @stretch_now (limitedTo limits) ⟨number, .tick⟩ ticking
  rw [show ticking.clock = clock from hpaused.clock] at hnow
  have hjoin : Stretch (limitedTo limits) ⟨number, .tick⟩ (perform .joinTick) later (done ())
      { later with ticking := none } := Machine.Alone.perform Oracle.quiet rfl rfl
  have hpass : Stretch (limitedTo limits) ⟨number, .tick⟩ (program (limitedTo limits) .tick) ticking
      (done ()) { later with ticking := none } :=
    stretch_bind hnow (stretch_bind htick.attempt hjoin)
  have hthread : (conf.threads ++ [(Task.tick, program (limitedTo limits) .tick)])[number]? =
      some (.tick, program (limitedTo limits) .tick) := by
    simp [number]
  have hstart : (machine (limitedTo limits)).RunsTo withinLimits conf
      ⟨ticking, conf.threads ++ [(Task.tick, program (limitedTo limits) .tick)]⟩ :=
    .single ⟨.launch .tick .quiet, rfl, congrArg (Option.map fun world =>
      (⟨world, conf.threads ++ [(Task.tick, program (limitedTo limits) .tick)]⟩ :
        Conf Call String Task World)) hlaunch⟩
  refine ⟨_, hstart.trans (hpass.runsTo rfl hthread),
    ⟨?_, ?_, ?_, ?_, ?_, ?_, ?_, rfl⟩, hlooked.congr World.store fun _ _ => rfl, ?_⟩
  · exact (hlooked.congr World.clock fun _ _ => rfl).trans hpaused.clock
  · exact (hlooked.congr World.judgeReady fun _ _ => rfl).trans hpaused.ready
  · exact (hlooked.congr World.openChats fun _ _ => rfl).trans hpaused.chats
  · exact (hlooked.congr World.announced fun _ _ => rfl).trans hpaused.announced
  · exact (hlooked.congr World.deadlines fun _ _ => rfl).trans hpaused.deadlines
  · exact (hlooked.congr World.dueAgain fun _ _ => rfl).trans hpaused.dueAgain
  · exact (hlooked.congr World.running fun _ _ => rfl).trans hpaused.running
  · simp [timerPasses, number]

/-! ## However long the conversation -/

/-- The session hears as many words as one likes, a pass of the timers goes by after each of them
until the session watched for long enough, and nothing is under way. -/
theorem runsTo_words (hchars : 0 < limits.maxMessageChars) (hturn : 0 < limits.maxMessagesPerTurn)
    (count : Nat) :
    ∃ conf, (machine (limitedTo limits)).RunsTo withinLimits (Serbero.start 1000) conf ∧
      conf.world.Paused (1060 + 60 * count) ∧
      Chatty (limitedTo limits) conf.world.store .guiding (1060 + 60 * count) (count + 1) ∧
      Guided conf.world.store ∧
      (1060 + 60 * (count : Int) < saturatingAdd 1060 (secs limits.selfResolutionTimeout) →
        timerPasses conf = count) := by
  induction count with
  | zero =>
    obtain ⟨conf, hrun, hpaused, hchatty, hguided, hpasses⟩ := @runsTo_guided limits hchars hturn
    exact ⟨conf, hrun, hpaused, hchatty, hguided, fun _ => hpasses⟩
  | succ count ih =>
    obtain ⟨conf, hrun, hpaused, hchatty, hguided, hpasses⟩ := ih
    obtain ⟨heard, hwait, hpaused, hchatty, hguided, hsame⟩ := runsTo_wait hchars hturn hpaused
      hchatty hguided
    have hclock : 1060 + 60 * (count : Int) + 60 = 1060 + 60 * ((count + 1 : Nat) : Int) := by omega
    rw [hclock] at hpaused hchatty
    by_cases hearly : 1060 + 60 * ((count + 1 : Nat) : Int) <
        saturatingAdd 1060 (secs limits.selfResolutionTimeout)
    · obtain ⟨conf', hpass, hpaused', hstore, hcount⟩ := runsTo_pass hpaused hchatty hguided hearly
      refine ⟨conf', (hrun.trans hwait).trans hpass, hpaused', hstore ▸ hchatty, hstore ▸ hguided,
        fun _ => ?_⟩
      rw [hcount, hsame, hpasses (by omega)]
    · exact ⟨heard, hrun.trans hwait, hpaused, hchatty, hguided, fun h => absurd h hearly⟩

/-- Some run gives the judge more text than any number. -/
theorem exists_longer (hchars : 0 < limits.maxMessageChars) (hturn : 0 < limits.maxMessagesPerTurn)
    (bound : Nat) :
    ∃ conf state, (machine (limitedTo limits)).RunsTo withinLimits (Serbero.start 1000) conf ∧
      AsksJudge conf state ∧ bound < state.textLength := by
  obtain ⟨conf, hrun, hpaused, hchatty, hguided, -⟩ := @runsTo_words limits hchars hturn bound
  obtain ⟨conf', asked, hrun', hasks, hlong⟩ := asksJudge_hear hchars hturn hpaused hchatty rfl
    fun _ => hguided
  exact ⟨conf', asked, hrun.trans hrun', hasks, by omega⟩

/-- For every bound there is a deployment whose timeout lets the conversation outgrow it. -/
theorem not_inputBounded_limitedTo {maxMessageChars maxMessagesPerTurn maxRounds : Nat}
    (hchars : 0 < maxMessageChars) (hturn : 0 < maxMessagesPerTurn) :
    ¬ InputBounded maxMessageChars maxMessagesPerTurn maxRounds := by
  rintro ⟨bound, hbound⟩
  -- The timeout leaves time for the words, and no template's text depends on it.
  let longest := bound smallDeployment.templateLength
  let limits : Limits := ⟨maxMessageChars, maxMessagesPerTurn, maxRounds, 60 * (longest + 2)⟩
  obtain ⟨conf, asked, hrun, hasks, hlong⟩ := @exists_longer limits hchars hturn longest
  have hle := hbound (limitedTo limits) rfl rfl rfl 1000 conf asked hrun hasks
  exact absurd hlong (not_lt.mpr hle)

end limited

/-- **No limits bound what the judge is given**: whatever the caps on a message, on the messages of a
turn and on the rounds, some conversation within them is longer than any number that depends on them
and on the catalog. -/
theorem judge_input_unbounded (maxMessageChars maxMessagesPerTurn maxRounds : Nat)
    (hchars : 0 < maxMessageChars) (hturn : 0 < maxMessagesPerTurn) :
    ¬ InputBounded maxMessageChars maxMessagesPerTurn maxRounds :=
  not_inputBounded_limitedTo hchars hturn

/-- The default limits. -/
theorem judge_input_unbounded_default : ¬ InputBounded 2000 10 4 :=
  judge_input_unbounded 2000 10 4 (by decide) (by decide)

/-- No number computed from the limits and the catalog bounds the input of every run. -/
theorem not_judge_input_bounded :
    ¬ ∃ bound : Nat → Nat → Nat → Lengths → Nat, ∀ (deployment : Deployment) (clock : Int)
      (conf : Conf Call String Task World) (state : JudgeState),
        0 < deployment.settings.maxMessageChars → 0 < deployment.settings.maxMessagesPerTurn →
        0 < deployment.settings.maxRounds →
        (machine deployment).RunsTo withinLimits (Serbero.start clock) conf →
        AsksJudge conf state →
          state.textLength ≤ bound deployment.settings.maxMessageChars
            deployment.settings.maxMessagesPerTurn deployment.settings.maxRounds
            deployment.templateLength := by
  rintro ⟨bound, hbound⟩
  refine @not_inputBounded_limitedTo 2000 10 4 (by decide) (by decide) ⟨bound 2000 10 4, ?_⟩
  intro deployment hchars hturn hrounds clock conf state hrun hasks
  have hle := hbound deployment clock conf state (by omega) (by omega) (by omega) hrun hasks
  rwa [hchars, hturn, hrounds] at hle

end Serbero
