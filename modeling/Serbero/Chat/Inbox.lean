import Serbero.Chat.Cursor

/-! # The inbox of all sessions

Every live channel, keyed by its author. Opening a session's chat registers its two channels one
after the other, then its subscription; handling an event updates the seen ids, the rate limiter, the
stored messages and the cursor one after the other. What is left where one of these steps fails
decides whether the next try goes through. -/

namespace Serbero

/-! ## Channels -/

/-- The part of a session its chat is opened with. -/
structure ChatParties where
  sessionId : SessionId
  buyerTradePubkey : String
  sellerTradePubkey : String
  buyerChatCursor : Option Int
  sellerChatCursor : Option Int
  openedAt : Int
  deriving DecidableEq, Repr

/-- A party's trade key, as stored. -/
def ChatParties.tradePubkey (session : ChatParties) : Party → String
  | .buyer => session.buyerTradePubkey
  | .seller => session.sellerTradePubkey

/-- A chat event as a relay delivers it. -/
structure OuterEvent where
  outerId : Nat
  author : Nat
  /-- The outer time, in whole seconds. -/
  createdAt : Nat
  deriving DecidableEq, Repr

/-- A registered channel. -/
structure Channel (Bucket : Type) where
  sessionId : SessionId
  party : Party
  tradePubkey : Nat
  bucket : Bucket

/-- The keys and the rate limiter of the channels, and what a valid event holds. -/
structure InboxSetup (Bucket : Type) where
  /-- Parses a trade key. -/
  publicKey : String → Except String Nat
  /-- Derives a channel from a trade key: the author of its events. -/
  derive : Nat → Except String Nat
  newBucket : Int → Bucket
  /-- Takes a token, if the bucket has one at that instant. -/
  takeToken : Bucket → Int → Bool × Bucket
  /-- Decrypts and checks an event of a trade key's channel at a local time. -/
  unwrap : Nat → OuterEvent → Nat → Except String ChatMessage
  maxMessageChars : Nat

/-- Every live chat channel, keyed by its author, and the outer ids seen recently. -/
structure Inbox (Bucket : Type) where
  channels : List (Nat × Channel Bucket)
  seenOuter : List Nat

/-- A subscription to the events of some authors from a time on. -/
structure ChatFilter where
  authors : List Nat
  since : Nat
  deriving DecidableEq, Repr

namespace Inbox

variable {Bucket : Type}

/-- The channel of an author. -/
def channel (inbox : Inbox Bucket) (author : Nat) : Option (Channel Bucket) :=
  (inbox.channels.find? fun entry => entry.1 == author).map Prod.snd

/-- Registers a channel, in place of any other of its author. -/
def insert (inbox : Inbox Bucket) (author : Nat) (channel : Channel Bucket) : Inbox Bucket :=
  { inbox with
    channels := inbox.channels.filter (fun entry => entry.1 != author) ++ [(author, channel)] }

/-- Forgets a session's channels. -/
def removeSession (inbox : Inbox Bucket) (id : SessionId) : Inbox Bucket :=
  { inbox with channels := inbox.channels.filter fun entry => entry.2.sessionId != id }

/-- Whether the session's channels are registered. -/
def hasSession (inbox : Inbox Bucket) (id : SessionId) : Bool :=
  inbox.channels.any fun entry => entry.2.sessionId == id

variable (setup : InboxSetup Bucket)

/-- Registers the channels of these parties, one after the other. -/
def addParties (session : ChatParties) (now : Int) (inbox : Inbox Bucket) (authors : List Nat) :
    List Party → Except String (List Nat) × Inbox Bucket
  | [] => (.ok authors, inbox)
  | party :: rest =>
    match setup.publicKey (session.tradePubkey party) with
    | .error failure => (.error failure, inbox)
    | .ok tradePubkey =>
      match setup.derive tradePubkey with
      | .error failure => (.error failure, inbox)
      | .ok author =>
        addParties session now
          (inbox.insert author ⟨session.sessionId, party, tradePubkey, setup.newBucket now⟩)
          (authors ++ [author]) rest

/-- Registers both channels of a session; the filter starts at the oldest stored cursor, and for a
party with none at the session's opening. -/
def addSession (inbox : Inbox Bucket) (session : ChatParties) (now : Int) :
    Except String ChatFilter × Inbox Bucket :=
  let added := addParties setup session now inbox [] Party.both
  match added.1 with
  | .error failure => (.error failure, added.2)
  | .ok authors =>
    let since := (([session.buyerChatCursor, session.sellerChatCursor].map fun cursor =>
      (max (cursor.getD session.openedAt) 0).toNat).min?).getD 0
    (.ok ⟨authors, since⟩, added.2)

end Inbox

/-! ## Chats -/

/-- The inbox, and the long-lived subscriptions of sessions that reconnections send again. -/
structure Chats (Bucket : Type) where
  inbox : Inbox Bucket
  registry : List (SessionId × ChatFilter)

namespace Chats

variable {Bucket : Type}

/-- Registers a session's two channels and subscribes to them. Whether the relays take the
subscription comes with the call. -/
def «open» (setup : InboxSetup Bucket) (chats : Chats Bucket) (session : ChatParties) (now : Int)
    (subscribeFails : Option String) : Except String Unit × Chats Bucket :=
  let added := chats.inbox.addSession setup session now
  let chats := { chats with inbox := added.2 }
  match added.1 with
  | .error failure => (.error failure, chats)
  | .ok filter =>
    let chats :=
      { chats with
        registry := chats.registry.filter (fun entry => entry.1 != session.sessionId) ++
          [(session.sessionId, filter)] }
    match subscribeFails with
    | some failure => (.error failure, chats)
    | none => (.ok (), chats)

/-- Whether the session's channels are open, so replies reach it. -/
def isOpen (chats : Chats Bucket) (id : SessionId) : Bool := chats.inbox.hasSession id

/-- Whether replies can reach the session: its channels are open, or open now. -/
def chatOpen (setup : InboxSetup Bucket) (chats : Chats Bucket) (session : ChatParties) (now : Int)
    (subscribeFails : Option String) : Bool × Chats Bucket :=
  if chats.isOpen session.sessionId then (true, chats)
  else
    let opened := chats.open setup session now subscribeFails
    (opened.1.toBool, opened.2)

/-- Nothing of the session is open: no channel and no subscription, and the next look at whether
replies reach it tries to open them. -/
structure Closed (setup : InboxSetup Bucket) (chats : Chats Bucket) (session : ChatParties) :
    Prop where
  notOpen : chats.isOpen session.sessionId = false
  noChannel : ∀ entry ∈ chats.inbox.channels, entry.2.sessionId ≠ session.sessionId
  noSubscription : ∀ entry ∈ chats.registry, entry.1 ≠ session.sessionId
  triesAgain : ∀ now subscribeFails, chats.chatOpen setup session now subscribeFails =
    ((chats.open setup session now subscribeFails).1.toBool,
      (chats.open setup session now subscribeFails).2)

end Chats

/-- The buyer's channel has no keys. -/
def InboxSetup.lacksBuyer {Bucket : Type} (setup : InboxSetup Bucket) (session : ChatParties) :
    Bool :=
  !((setup.publicKey session.buyerTradePubkey).bind setup.derive).toBool

/-! ## What a failed opening leaves -/

section

variable {Bucket : Type} {setup : InboxSetup Bucket}

/-- No channel is the session's. -/
theorem Inbox.hasSession_eq_false {inbox : Inbox Bucket} {id : SessionId} :
    inbox.hasSession id = false ↔ ∀ entry ∈ inbox.channels, entry.2.sessionId ≠ id := by
  simp [Inbox.hasSession]

/-- A session with no channel and no subscription is closed. -/
theorem Chats.closed_iff {chats : Chats Bucket} {session : ChatParties} :
    chats.Closed setup session ↔
      (∀ entry ∈ chats.inbox.channels, entry.2.sessionId ≠ session.sessionId) ∧
        ∀ entry ∈ chats.registry, entry.1 ≠ session.sessionId := by
  constructor
  · exact fun h => ⟨h.noChannel, h.noSubscription⟩
  · rintro ⟨hchannel, hsubscription⟩
    have hopen : chats.isOpen session.sessionId = false := Inbox.hasSession_eq_false.mpr hchannel
    refine ⟨hopen, hchannel, hsubscription, fun now subscribeFails => ?_⟩
    rw [Chats.chatOpen, hopen]
    rfl

/-- Registering more of a session's channels keeps one of them. -/
theorem Inbox.hasSession_addParties {session : ChatParties} {now : Int} {parties : List Party}
    {inbox : Inbox Bucket} {authors : List Nat} (h : inbox.hasSession session.sessionId = true) :
    (addParties setup session now inbox authors parties).2.hasSession session.sessionId = true := by
  induction parties generalizing inbox authors with
  | nil => exact h
  | cons party rest ih =>
    rw [addParties]
    split
    · exact h
    · split
      · exact h
      · refine ih ?_
        simp [Inbox.hasSession, Inbox.insert]

/-- What registering a session's channels leaves: nothing new where the buyer's channel has no keys,
and one of its channels otherwise. -/
theorem Inbox.addSession_cases (inbox : Inbox Bucket) (session : ChatParties) (now : Int) :
    (setup.lacksBuyer session = true ∧ ∃ failure,
      inbox.addSession setup session now = (.error failure, inbox)) ∨
    (setup.lacksBuyer session = false ∧
      (inbox.addSession setup session now).2.hasSession session.sessionId = true) := by
  have hsecond : (inbox.addSession setup session now).2 =
      (addParties setup session now inbox [] Party.both).2 := by
    rw [Inbox.addSession]
    split <;> rfl
  rw [InboxSetup.lacksBuyer]
  cases hkey : setup.publicKey session.buyerTradePubkey with
  | error failure =>
    refine Or.inl ⟨rfl, failure, ?_⟩
    simp [Inbox.addSession, addParties, Party.both, ChatParties.tradePubkey, hkey]
  | ok tradePubkey =>
    cases hauthor : setup.derive tradePubkey with
    | error failure =>
      refine Or.inl ⟨by simp [Except.bind, hauthor, Except.toBool], failure, ?_⟩
      simp [Inbox.addSession, addParties, Party.both, ChatParties.tradePubkey, hkey, hauthor]
    | ok author =>
      refine Or.inr ⟨by simp [Except.bind, hauthor, Except.toBool], ?_⟩
      rw [hsecond, Party.both, addParties]
      simp only [ChatParties.tradePubkey, hkey, hauthor]
      exact Inbox.hasSession_addParties (by simp [Inbox.hasSession, Inbox.insert])

/-- **A failed chat open is a closed chat** exactly when the buyer's channel has no keys and nothing
of the session was open before. -/
theorem open_failed_closed_iff (setup : InboxSetup Bucket) (chats : Chats Bucket)
    (session : ChatParties) (now : Int) (subscribeFails : Option String) (failure : String)
    (hfails : (chats.open setup session now subscribeFails).1 = .error failure) :
    (chats.open setup session now subscribeFails).2.Closed setup session ↔
      setup.lacksBuyer session = true ∧ chats.Closed setup session := by
  rcases @Inbox.addSession_cases Bucket setup chats.inbox session now with
    ⟨hlacks, why, hadded⟩ | ⟨hlacks, hadded⟩
  · have hsame : (chats.open setup session now subscribeFails).2 = chats := by
      simp [Chats.open, hadded]
    rw [hsame]
    exact ⟨fun h => ⟨hlacks, h⟩, And.right⟩
  · have hinbox : (chats.open setup session now subscribeFails).2.inbox =
        (chats.inbox.addSession setup session now).2 := by
      rw [Chats.open]
      simp only []
      split
      · rfl
      · split <;> rfl
    constructor
    · intro hclosed
      have hopen := hclosed.notOpen
      rw [Chats.isOpen, hinbox, hadded] at hopen
      cases hopen
    · rintro ⟨hbuyer, -⟩
      rw [hlacks] at hbuyer
      cases hbuyer

end

/-- Two keys, and a limiter that never refuses. -/
def plainSetup : InboxSetup Unit where
  publicKey key :=
    if key = "1" then .ok 1
    else if key = "2" then .ok 2
    else .error "not a key"
  derive key := .ok (key + 1000)
  newBucket _ := ()
  takeToken bucket _ := (true, bucket)
  unwrap _ event _ := .ok ⟨event.outerId, "hello", 0, event.createdAt⟩
  maxMessageChars := 2000

/-- Before the first session. -/
def emptyChats : Chats Unit := ⟨⟨[], []⟩, []⟩

/-- A buyer's key that cannot be parsed, before the first session. -/
theorem open_failed_closed_iff_buyer :
    let session : ChatParties := ⟨0, "not-a-key", "2", none, none, 100⟩
    (emptyChats.open plainSetup session 0 none).2.Closed plainSetup session ↔
      plainSetup.lacksBuyer session = true ∧ emptyChats.Closed plainSetup session :=
  open_failed_closed_iff plainSetup emptyChats ⟨0, "not-a-key", "2", none, none, 100⟩ 0 none
    "not a key" (by decide +kernel)

/-- The seller's key cannot be parsed: the buyer's channel stays, and the session counts as open. -/
theorem not_open_failed_closed :
    ¬∀ (setup : InboxSetup Unit) (chats : Chats Unit) session now subscribeFails failure,
      (chats.open setup session now subscribeFails).1 = .error failure →
        (chats.open setup session now subscribeFails).2.Closed setup session := by
  intro h
  have hclosed := h plainSetup emptyChats ⟨0, "1", "not-a-key", none, none, 100⟩ 0 none "not a key"
    (by decide +kernel)
  have hopen := hclosed.notOpen
  revert hopen
  decide +kernel

/-! ## Receiving -/

/-- The calls of the store that handling an event makes. -/
inductive InboxCall
  | session
  | insert
  | cursor
  deriving DecidableEq, Repr

/-- A message from a party, accepted and stored. -/
structure Received where
  sessionId : SessionId
  party : Party
  content : String
  attachments : Nat
  createdAt : Int
  deriving DecidableEq, Repr

/-- The inbox, the store, and the cursors stored for the sessions' parties. -/
structure ChatState (Bucket : Type) where
  inbox : Inbox Bucket
  store : Store
  cursors : List ((SessionId × Party) × Int)

namespace ChatState

variable {Bucket : Type}

/-- Advances a party's cursor; it never moves backwards. -/
def advanceCursor (state : ChatState Bucket) (id : SessionId) (party : Party) (cursor : Int) :
    ChatState Bucket :=
  let stored := ((state.cursors.find? fun entry => entry.1 == (id, party)).map Prod.snd).getD 0
  { state with
    cursors := state.cursors.filter (fun entry => entry.1 != (id, party)) ++
      [((id, party), max stored cursor)] }

/-- The row a message of a channel is to be stored as. -/
def inbound (setup : InboxSetup Bucket) (channel : Channel Bucket) (message : ChatMessage) :
    NewMessage :=
  { sessionId := channel.sessionId
    direction := .inbound
    party := channel.party
    templateId := none
    lang := none
    content := truncate message.content setup.maxMessageChars
    attachments := message.attachments
    innerEventId := .party message.innerEventId
    createdAt := message.createdAt }

/-- Validates and stores one inbound event, in the protocol's order. Which call of the store fails,
if any, comes with the delivery. -/
def handle (setup : InboxSetup Bucket) (state : ChatState Bucket) (event : OuterEvent)
    (localNow : Nat) (now : Int) (fails : Option InboxCall) :
    Except String (Except Rejected Received) × ChatState Bucket :=
  match state.inbox.channel event.author with
  | none => (.ok (.error .unknownAuthor), state)
  | some channel =>
    if fails = some .session then (.error "cannot read the session", state)
    -- The chat of a session that is over is forgotten with its first late message.
    else if !(state.store.session channel.sessionId).any Session.isLive then
      (.ok (.error .sessionEnded),
        { state with inbox := state.inbox.removeSession channel.sessionId })
    else
      match insertSeen state.inbox.seenOuter event.outerId with
      | none => (.ok (.error .duplicateOuter), state)
      | some seen =>
        -- The token is taken before the message is unwrapped, whether or not it is valid.
        let (token, bucket) := setup.takeToken channel.bucket now
        let state :=
          { state with
            inbox :=
              { channels := state.inbox.channels.map fun entry =>
                  if entry.1 = event.author then (entry.1, { entry.2 with bucket := bucket })
                  else entry
                seenOuter := seen } }
        if !token then (.ok (.error .rateLimited), state)
        else
          match setup.unwrap channel.tradePubkey event localNow with
          | .error reason => (.ok (.error (.invalid reason)), state)
          | .ok message =>
            let new := inbound setup channel message
            if fails = some .insert then (.error "cannot store the message", state)
            else
              match state.store.insertMessageIfNew new with
              | .error failure => (.error failure, state)
              | .ok (false, _) => (.ok (.error .duplicateInner), state)
              | .ok (true, store) =>
                let state := { state with store := store }
                if fails = some .cursor then (.error "cannot advance the cursor", state)
                else
                  (.ok (.ok ⟨channel.sessionId, channel.party, new.content, message.attachments,
                      message.createdAt⟩),
                    state.advanceCursor channel.sessionId channel.party
                      (min (asI64 event.createdAt) (asI64 localNow)))

/-- How often the message of an event is stored. -/
def copies (setup : InboxSetup Bucket) (state : ChatState Bucket) (event : OuterEvent)
    (localNow : Nat) : Nat :=
  match state.inbox.channel event.author with
  | none => 0
  | some channel =>
    match setup.unwrap channel.tradePubkey event localNow with
    | .error _ => 0
    | .ok message => state.store.messages.countP fun row =>
        row.sessionId == channel.sessionId && row.direction == .inbound &&
          row.party == channel.party && row.innerEventId == .party message.innerEventId

/-- A delivery where the store works: what it says, and how often the message is stored then. -/
def deliver (setup : InboxSetup Bucket) (state : ChatState Bucket) (event : OuterEvent)
    (localNow : Nat) (now : Int) : Except String (Except Rejected Received) × Nat :=
  let handled := state.handle setup event localNow now none
  (handled.1, handled.2.copies setup event localNow)

end ChatState

/-! ## Delivering an event again -/

/-- An id that was remembered is a duplicate. -/
theorem insertSeen_insertSeen {seen later : List Nat} {id : Nat}
    (h : insertSeen seen id = some later) : insertSeen later id = none := by
  have hmem : id ∈ later := by
    unfold insertSeen at h
    split at h
    · cases h
    · split at h
      · next hlong =>
        cases h
        -- The id that is forgotten is the oldest one.
        cases seen with
        | nil => exact absurd hlong (by simp [seenOuterCapacity])
        | cons oldest rest => exact List.mem_append_right rest List.mem_cons_self
      · cases h
        exact List.mem_append_right seen List.mem_cons_self
  rw [insertSeen, if_pos (by simpa using hmem)]

section

variable {Bucket : Type} {setup : InboxSetup Bucket}

/-- Taking a token changes no channel but its bucket. -/
theorem Inbox.channel_map {channels : List (Nat × Channel Bucket)} {seen seen' : List Nat}
    {author : Nat} {channel : Channel Bucket} {bucket : Bucket}
    (h : (⟨channels, seen⟩ : Inbox Bucket).channel author = some channel) :
    (⟨channels.map fun entry =>
      if entry.1 = author then (entry.1, { entry.2 with bucket := bucket }) else entry, seen'⟩ :
        Inbox Bucket).channel author = some { channel with bucket := bucket } := by
  simp only [Inbox.channel] at h ⊢
  induction channels with
  | nil => cases h
  | cons entry rest ih =>
    rw [List.map_cons]
    by_cases hauthor : entry.1 = author
    · rw [List.find?_cons_of_pos (by simpa using hauthor)] at h
      rw [if_pos hauthor, List.find?_cons_of_pos (by simpa using hauthor)]
      cases h
      rfl
    · rw [List.find?_cons_of_neg (by simpa using hauthor)] at h
      rw [if_neg hauthor, List.find?_cons_of_neg (by simpa using hauthor)]
      exact ih h

namespace ChatState

variable {state : ChatState Bucket} {event : OuterEvent} {localNow : Nat} {now : Int}

/-- The event is of a live channel, and its id is remembered. -/
def Remembers (state : ChatState Bucket) (event : OuterEvent) : Prop :=
  ∃ channel, state.inbox.channel event.author = some channel ∧
    (state.store.session channel.sessionId).any Session.isLive = true ∧
      insertSeen state.inbox.seenOuter event.outerId = none

/-- An event that is remembered is dropped. -/
theorem Remembers.handle (h : state.Remembers event) :
    (state.handle setup event localNow now none).1 = .ok (.error .duplicateOuter) := by
  obtain ⟨channel, hchannel, hlive, hseen⟩ := h
  simp [ChatState.handle, hchannel, hlive, hseen]

/-- Where a store call fails, either nothing happened yet, or the event is remembered. -/
theorem handle_error {fails : Option InboxCall} {failure : String}
    (h : (state.handle setup event localNow now fails).1 = .error failure) :
    (fails = some .session ∧ (state.handle setup event localNow now fails).2 = state) ∨
      (fails ≠ some .session ∧
        (state.handle setup event localNow now fails).2.Remembers event) := by
  cases hchannel : state.inbox.channel event.author with
  | none => simp [ChatState.handle, hchannel] at h
  | some channel =>
  by_cases hfails : fails = some .session
  · exact Or.inl ⟨hfails, by simp [ChatState.handle, hchannel, hfails]⟩
  refine Or.inr ⟨hfails, ?_⟩
  simp only [ChatState.handle, hchannel, if_neg hfails] at h ⊢
  by_cases hlive : (state.store.session channel.sessionId).any Session.isLive = true
  · simp only [hlive, Bool.not_true, Bool.false_eq_true, if_false] at h ⊢
    cases hseen : insertSeen state.inbox.seenOuter event.outerId with
    | none => simp [hseen] at h
    | some seen =>
    -- From here on the id is among those seen, and the store has the same sessions.
    have hremembers : ∀ (store : Store) cursors, store.sessions = state.store.sessions →
        (⟨⟨state.inbox.channels.map fun entry =>
          if entry.1 = event.author then
            (entry.1, { entry.2 with bucket := (setup.takeToken channel.bucket now).2 })
          else entry, seen⟩, store, cursors⟩ : ChatState Bucket).Remembers event := by
      intro store cursors hsessions
      refine ⟨_, Inbox.channel_map hchannel, ?_, insertSeen_insertSeen hseen⟩
      rw [Store.session, hsessions]
      exact hlive
    simp only [hseen] at h ⊢
    split at h
    · cases h
    · next htoken =>
      rw [if_neg htoken]
      cases hmessage : setup.unwrap channel.tradePubkey event localNow with
      | error reason => simp [hmessage] at h
      | ok message =>
      simp only [hmessage] at h ⊢
      split at h
      · next hinsert =>
        rw [if_pos hinsert]
        exact hremembers _ _ rfl
      · next hinsert =>
        rw [if_neg hinsert]
        split at h
        · exact hremembers _ _ rfl
        · cases h
        · next store hrow =>
          split at h
          · next hcursor =>
            rw [if_pos hcursor]
            refine hremembers _ _ ?_
            rcases (Store.insertMessageIfNew_eq_ok hrow).2 with ⟨-, rfl, -⟩ | ⟨-, rfl⟩ <;> rfl
          · cases h
  · simp [hlive] at h

/-- A message that is received was not stored before, and is stored once. -/
theorem copies_of_received {received : Received}
    (h : (state.handle setup event localNow now none).1 = .ok (.ok received)) :
    (state.handle setup event localNow now none).2.copies setup event localNow = 1 := by
  -- Each case is a check of the handler; only the last one stores a message.
  cases hchannel : state.inbox.channel event.author with
  | none => simp [ChatState.handle, hchannel] at h
  | some channel =>
  simp only [ChatState.handle, hchannel, reduceCtorEq, if_false] at h ⊢
  split at h
  · cases h
  · next hlive =>
    rw [if_neg hlive]
    cases hseen : insertSeen state.inbox.seenOuter event.outerId with
    | none => simp [hseen] at h
    | some seen =>
    simp only [hseen] at h ⊢
    split at h
    · cases h
    · next htoken =>
      rw [if_neg htoken]
      cases hmessage : setup.unwrap channel.tradePubkey event localNow with
      | error reason => simp [hmessage] at h
      | ok message =>
      simp only [hmessage] at h ⊢
      split at h
      · cases h
      · cases h
      · next store hrow =>
        simp only [copies, advanceCursor, Inbox.channel_map hchannel, hmessage]
        unfold Store.insertMessageIfNew at hrow
        split at hrow
        · cases hrow
        · split at hrow
          · cases hrow
          · next hnew =>
            cases hrow
            rw [List.countP_append]
            -- The store had no copy before: that is what the insertion checked.
            have hnone : state.store.messages.countP (fun row =>
                row.sessionId == channel.sessionId && row.direction == .inbound &&
                  row.party == channel.party &&
                    row.innerEventId == .party message.innerEventId) = 0 := by
              rw [List.countP_eq_zero]
              intro row hrow hsame
              exact hnew (List.any_eq_true.mpr ⟨row, hrow, hsame⟩)
            rw [hnone, List.countP_singleton, if_pos (by simp [NewMessage.row, inbound])]

end ChatState

/-- **Receiving a chat event is recoverable** exactly when the store call that failed is the lookup of
the session: the second delivery then ends as if the first one had never happened, with the message
received and stored once. -/
theorem redelivery_recovers_iff (setup : InboxSetup Bucket) (state : ChatState Bucket)
    (event : OuterEvent) (localNow : Nat) (now : Int) (fails : Option InboxCall) (failure : String)
    (hfails : (state.handle setup event localNow now fails).1 = .error failure)
    (localNow' : Nat) (now' : Int) (received : Received)
    (hvalid : (state.handle setup event localNow' now' none).1 = .ok (.ok received)) :
    (state.handle setup event localNow now fails).2.deliver setup event localNow' now' =
        (.ok (.ok received), 1) ↔
      fails = some .session := by
  rcases ChatState.handle_error hfails with ⟨hsession, hsame⟩ | ⟨hother, hremembers⟩
  · rw [hsame]
    refine ⟨fun _ => hsession, fun _ => ?_⟩
    rw [ChatState.deliver, hvalid, ChatState.copies_of_received hvalid]
  · refine ⟨fun hdelivered => ?_, fun hsession => absurd hsession hother⟩
    have hresult := congrArg Prod.fst hdelivered
    rw [ChatState.deliver, hremembers.handle] at hresult
    cases hresult

end

/-- A store with one live session, both of whose channels are open. -/
def openState : ChatState Unit where
  inbox := (emptyChats.open plainSetup ⟨0, "1", "2", none, none, 100⟩ 0 none).2.inbox
  store := { Store.empty with
    sessions := [({ sessionId := 0, disputeId := 1, fiatAmount := none, fiatCode := none
                    paymentMethod := none, orderPublishedAt := none, now := 100 } :
                      NewSession).row] }
  cursors := []

/-- The session could not be read: delivered again, the event is taken up. -/
theorem redelivery_recovers_iff_session :
    (openState.handle plainSetup ⟨7, 1001, 200⟩ 300 0 (some .session)).2.deliver plainSetup
        ⟨7, 1001, 200⟩ 301 1 = (.ok (.ok ⟨0, .buyer, "hello", 0, 200⟩), 1) ↔
      some InboxCall.session = some .session :=
  redelivery_recovers_iff plainSetup openState ⟨7, 1001, 200⟩ 300 0 (some .session)
    "cannot read the session" (by rfl) 301 1 ⟨0, .buyer, "hello", 0, 200⟩ (by rfl)

/-- The message cannot be stored: delivered again, the event is a duplicate. -/
theorem not_redelivery_recovers :
    ¬∀ (setup : InboxSetup Unit) (state : ChatState Unit) event localNow now fails failure,
      (state.handle setup event localNow now fails).1 = .error failure →
        ∀ localNow' now' received,
          (state.handle setup event localNow' now' none).1 = .ok (.ok received) →
            (state.handle setup event localNow now fails).2.deliver setup event localNow' now' =
              (.ok (.ok received), 1) := by
  intro h
  have hagain := h plainSetup openState ⟨7, 1001, 200⟩ 300 0 (some .insert)
    "cannot store the message" (by rfl) 301 1 ⟨0, .buyer, "hello", 0, 200⟩ (by rfl)
  have hresult := congrArg Prod.snd hagain
  revert hresult
  decide +kernel

end Serbero
