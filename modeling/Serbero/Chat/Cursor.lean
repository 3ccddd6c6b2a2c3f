import Mathlib.Data.BitVec
import Serbero.Judge.State
import Serbero.Store.Tables

/-! # Chat cursors across restarts

A session's chat is read from the relays since the older of two stored cursors, one a party: the
latest outer time of the messages accepted from it. Relays deliver in any order and the rate limiter
drops what it must, so a cursor may pass a message that is not stored. -/

namespace Serbero

/-! ## Events and messages -/

/-- A chat event as a relay holds it; its author is the channel of a party. -/
structure ChatEvent where
  outerId : Nat
  /-- The outer time, in whole seconds. -/
  createdAt : Nat
  party : Party
  deriving DecidableEq, Repr

/-- What a valid chat event holds. -/
structure ChatMessage where
  innerEventId : Nat
  /-- The text, or a marker for an attachment. -/
  content : String
  attachments : Nat
  createdAt : Int
  deriving DecidableEq, Repr

/-- What the chat of a session is read with. -/
structure ChatSetup where
  session : Session
  maxMessageChars : Nat
  /-- Decrypts and checks an event at a local time. -/
  unwrap : ChatEvent → Nat → Except String ChatMessage

/-- Why an inbound event was not accepted. -/
inductive Rejected
  | unknownAuthor
  | duplicateOuter
  | rateLimited
  | invalid (reason : String)
  | duplicateInner
  /-- The session is closed or superseded. -/
  | sessionEnded
  deriving DecidableEq, Repr

/-- How an inbound event was handled. -/
inductive Handled
  | received
  | rejected (why : Rejected)
  /-- The store failed. -/
  | failed
  deriving DecidableEq, Repr

/-- The row a message is to be stored as. -/
def ChatSetup.inbound (setup : ChatSetup) (party : Party) (message : ChatMessage) : NewMessage :=
  { sessionId := setup.session.sessionId
    direction := .inbound
    party := party
    templateId := none
    lang := none
    content := truncate message.content setup.maxMessageChars
    attachments := message.attachments
    innerEventId := .party message.innerEventId
    createdAt := message.createdAt }

/-- Seconds as `u64 as i64` reads them. -/
def asI64 (seconds : Nat) : Int := (BitVec.ofNat 64 seconds).toInt

/-- Where an accepted event puts the cursor: its outer time, but never past Serbero's clock. -/
def ChatEvent.cursor (event : ChatEvent) (localNow : Nat) : Int :=
  min (asI64 event.createdAt) (asI64 localNow)

/-! ## The chat of one session -/

/-- The store, the cursors, the channels, and what the relays hold. -/
structure Chat where
  store : Store
  buyerCursor : Option Int
  sellerCursor : Option Int
  /-- Both channels are registered. -/
  registered : Bool
  /-- Outer ids seen recently, the newest last. -/
  seenOuter : List Nat
  relay : List ChatEvent
  /-- For the record: the events that advanced a cursor, each with Serbero's clock then. -/
  advanced : List (ChatEvent × Nat)

/-- Outer event ids remembered to drop duplicate relay deliveries. -/
def seenOuterCapacity : Nat := 4096

/-- Remembers an outer id; `none` when it was seen already. -/
def insertSeen (seen : List Nat) (id : Nat) : Option (List Nat) :=
  if seen.contains id then none
  else if seenOuterCapacity < (seen ++ [id]).length then some (seen ++ [id]).tail
  else some (seen ++ [id])

namespace Chat

/-- A party's stored cursor. -/
def cursor (chat : Chat) : Party → Option Int
  | .buyer => chat.buyerCursor
  | .seller => chat.sellerCursor

/-- The `since` of the filter that `add_session` returns: the oldest of both cursors, and for a
party with none the session's opening. -/
def since (setup : ChatSetup) (chat : Chat) : Nat :=
  (([chat.buyerCursor, chat.sellerCursor].map fun cursor =>
    (max (cursor.getD setup.session.openedAt) 0).toNat).min?).getD 0

/-- Advances a party's cursor; it never moves backwards. -/
def advanceChatCursor (chat : Chat) (party : Party) (cursor : Int) : Chat :=
  let advance := fun stored : Option Int => some (max (stored.getD 0) cursor)
  match party with
  | .buyer => { chat with buyerCursor := advance chat.buyerCursor }
  | .seller => { chat with sellerCursor := advance chat.sellerCursor }

/-- Validates and stores one inbound event, in the protocol's order. Whether the rate limiter has a
token left and whether the cursor can be written comes with the delivery. -/
def handle (setup : ChatSetup) (chat : Chat) (event : ChatEvent) (limited cursorFails : Bool)
    (localNow : Nat) : Handled × Chat :=
  if !chat.registered then (.rejected .unknownAuthor, chat)
  else if !(chat.store.session setup.session.sessionId).any Session.isLive then
    (.rejected .sessionEnded, { chat with registered := false })
  else
    match insertSeen chat.seenOuter event.outerId with
    | none => (.rejected .duplicateOuter, chat)
    | some seen =>
      let chat := { chat with seenOuter := seen }
      if limited then (.rejected .rateLimited, chat)
      else
        match setup.unwrap event localNow with
        | .error reason => (.rejected (.invalid reason), chat)
        | .ok message =>
          match chat.store.insertMessageIfNew (setup.inbound event.party message) with
          | .error _ => (.failed, chat)
          | .ok (false, _) => (.rejected .duplicateInner, chat)
          | .ok (true, store) =>
            let chat := { chat with store := store }
            if cursorFails then (.failed, chat)
            else
              (.received,
                { chat.advanceChatCursor event.party (event.cursor localNow) with
                  advanced := chat.advanced ++ [(event, localNow)] })

end Chat

/-- One step of a session's chat. -/
inductive ChatInput
  /-- A party's event reaches a relay. -/
  | publish (event : ChatEvent)
  /-- A relay delivers an event it holds. -/
  | deliver (event : ChatEvent) (limited cursorFails : Bool) (localNow : Nat)
  /-- The process ends and starts again. -/
  | restart
  /-- The session's channels are opened, or opened again. -/
  | openChannels
  /-- The session's state changes. -/
  | move (state : SessionState) (now : Int)

namespace Chat

/-- Before the first event. -/
def start (setup : ChatSetup) : Chat :=
  { store := { Store.empty with sessions := [setup.session] }
    buyerCursor := none
    sellerCursor := none
    registered := false
    seenOuter := []
    relay := []
    advanced := [] }

/-- One step. -/
def step (setup : ChatSetup) (chat : Chat) : ChatInput → Chat
  | .publish event => { chat with relay := chat.relay ++ [event] }
  | .deliver event limited cursorFails localNow =>
    if event ∈ chat.relay then (chat.handle setup event limited cursorFails localNow).2 else chat
  | .restart => { chat with registered := false, seenOuter := [] }
  | .openChannels => { chat with registered := true }
  | .move state now =>
    { chat with store := chat.store.setState setup.session.sessionId state now }

/-- A run. -/
def run (setup : ChatSetup) (inputs : List ChatInput) : Chat :=
  inputs.foldl (step setup) (start setup)

/-- A valid message that a relay holds and that is not stored. -/
def Missing (setup : ChatSetup) (chat : Chat) (event : ChatEvent) : Prop :=
  event ∈ chat.relay ∧ ∃ localNow message, setup.unwrap event localNow = .ok message ∧
    ∀ row ∈ chat.store.messages, ¬(row.sessionId = setup.session.sessionId ∧
      row.direction = .inbound ∧ row.party = event.party ∧
      row.innerEventId = .party message.innerEventId)

/-! ## What the cursors say -/

/-- A party's cursor is the greatest of where its accepted events put it. -/
structure Inv (chat : Chat) : Prop where
  unset : ∀ party, chat.cursor party = none →
    ∀ entry ∈ chat.advanced, entry.1.party ≠ party
  greatest : ∀ party stored, chat.cursor party = some stored → ∀ bound : Int, 0 ≤ bound →
    (stored ≤ bound ↔ ∀ entry ∈ chat.advanced, entry.1.party = party →
      entry.1.cursor entry.2 ≤ bound)

namespace Inv

variable {chat : Chat}

/-- The cursors and what advanced them are what they were. -/
theorem of_eq (h : chat.Inv) {later : Chat} (hcursor : later.cursor = chat.cursor)
    (hadvanced : later.advanced = chat.advanced) : later.Inv := by
  refine ⟨fun party => ?_, fun party => ?_⟩
  · rw [hcursor, hadvanced]
    exact h.unset party
  · rw [hcursor, hadvanced]
    exact h.greatest party

/-- Advancing one cursor. -/
theorem advance (h : chat.Inv) (event : ChatEvent) (localNow : Nat) :
    Inv { chat.advanceChatCursor event.party (event.cursor localNow) with
      advanced := chat.advanced ++ [(event, localNow)] } := by
  have hother : ∀ party, party ≠ event.party →
      (chat.advanceChatCursor event.party (event.cursor localNow)).cursor party =
        chat.cursor party := by
    intro party hne
    cases party <;> cases hparty : event.party <;> first | rfl | exact absurd hparty.symm hne
  have hown : (chat.advanceChatCursor event.party (event.cursor localNow)).cursor event.party =
      some (max ((chat.cursor event.party).getD 0) (event.cursor localNow)) := by
    cases event.party <;> rfl
  refine ⟨fun party hnone => ?_, fun party stored hstored bound hbound => ?_⟩
  · change (chat.advanceChatCursor event.party (event.cursor localNow)).cursor party = _ at hnone
    by_cases hparty : party = event.party
    · rw [hparty, hown] at hnone
      cases hnone
    · rw [hother party hparty] at hnone
      intro entry hentry
      rcases List.mem_append.mp hentry with hold | hnew
      · exact h.unset party hnone entry hold
      · rw [List.mem_singleton.mp hnew]
        exact Ne.symm hparty
  · change (chat.advanceChatCursor event.party (event.cursor localNow)).cursor party = _ at hstored
    have happend : (∀ entry ∈ chat.advanced ++ [(event, localNow)], entry.1.party = party →
        entry.1.cursor entry.2 ≤ bound) ↔
          (∀ entry ∈ chat.advanced, entry.1.party = party → entry.1.cursor entry.2 ≤ bound) ∧
            (event.party = party → event.cursor localNow ≤ bound) := by
      rw [List.forall_mem_append, List.forall_mem_singleton]
    rw [happend]
    by_cases hparty : party = event.party
    · subst hparty
      rw [hown, Option.some.injEq] at hstored
      rw [← hstored, max_le_iff]
      refine and_congr ?_ ⟨fun hle _ => hle, fun hle => hle rfl⟩
      cases hcursor : chat.cursor event.party with
      | none =>
        -- The first message of the party.
        exact ⟨fun _ entry hentry heq => absurd heq (h.unset _ hcursor entry hentry),
          fun _ => hbound⟩
      | some before => exact h.greatest _ before hcursor bound hbound
    · rw [hother party hparty] at hstored
      rw [h.greatest party stored hstored bound hbound]
      exact ⟨fun hle => ⟨hle, fun heq => absurd heq.symm hparty⟩, fun hle => hle.1⟩

/-- Handling an event. -/
theorem handle (h : chat.Inv) (setup : ChatSetup) (event : ChatEvent) (limited cursorFails : Bool)
    (localNow : Nat) : (chat.handle setup event limited cursorFails localNow).2.Inv := by
  unfold Chat.handle
  split
  · exact h
  · split
    · exact h.of_eq rfl rfl
    · split
      · exact h
      · next seen _ =>
        have hseen : Inv { chat with seenOuter := seen } := h.of_eq rfl rfl
        simp only []
        split
        · exact hseen
        · split
          · exact hseen
          · split
            · exact hseen
            · exact hseen
            · next store _ =>
              have hstored : Inv { chat with seenOuter := seen, store := store } :=
                h.of_eq rfl rfl
              split
              · exact hstored
              · exact hstored.advance event localNow

/-- **One step** keeps the invariant. -/
theorem step (h : chat.Inv) (setup : ChatSetup) (input : ChatInput) :
    (chat.step setup input).Inv := by
  cases input with
  | publish event => exact h.of_eq rfl rfl
  | deliver event limited cursorFails localNow =>
    rw [Chat.step]
    split
    · exact h.handle setup event limited cursorFails localNow
    · exact h
  | restart => exact h.of_eq rfl rfl
  | openChannels => exact h.of_eq rfl rfl
  | move state now => exact h.of_eq rfl rfl

/-- **A whole run** keeps the invariant. -/
theorem run (setup : ChatSetup) (inputs : List ChatInput) : (Chat.run setup inputs).Inv := by
  have from' : ∀ chat : Chat, chat.Inv → (inputs.foldl (Chat.step setup) chat).Inv := by
    induction inputs with
    | nil => exact fun _ h => h
    | cons input rest ih => exact fun _ h => ih _ (h.step setup input)
  refine from' _ ⟨fun _ _ _ hentry => absurd hentry List.not_mem_nil, fun party _ hstored => ?_⟩
  cases party <;> cases hstored

/-- Where the subscription starts for one party. -/
theorem cursor_le_iff (h : chat.Inv) {openedAt : Int} {at' : Nat} (hopened : openedAt ≤ at')
    (party : Party) : (max ((chat.cursor party).getD openedAt) 0).toNat ≤ at' ↔
      ∀ entry ∈ chat.advanced, entry.1.party = party → entry.1.cursor entry.2 ≤ at' := by
  rw [Int.toNat_le, max_le_iff]
  cases hcursor : chat.cursor party with
  | none =>
    exact ⟨fun _ entry hentry heq => absurd heq (h.unset party hcursor entry hentry),
      fun _ => ⟨hopened, Int.natCast_nonneg at'⟩⟩
  | some stored =>
    rw [Option.getD_some, h.greatest party stored hcursor at' (Int.natCast_nonneg at')]
    exact ⟨fun hle => hle.1, fun hle => ⟨hle, Int.natCast_nonneg at'⟩⟩

end Inv

/-- **When a restart can still recover what is missing.** After any run, the filter computed from
the stored cursors matches every missing message since the session's opening exactly when, for each
of them, one of the parties has no accepted message with a later outer time. -/
theorem recoverable_iff (setup : ChatSetup) (inputs : List ChatInput) :
    (∀ event, (run setup inputs).Missing setup event →
      setup.session.openedAt ≤ event.createdAt →
        (run setup inputs).since setup ≤ event.createdAt) ↔
    ∀ event, (run setup inputs).Missing setup event →
      setup.session.openedAt ≤ event.createdAt →
        ∃ party, ∀ entry ∈ (run setup inputs).advanced, entry.1.party = party →
          entry.1.cursor entry.2 ≤ event.createdAt := by
  have h := Inv.run setup inputs
  generalize run setup inputs = chat at h
  refine forall_congr' fun event => imp_congr_right fun _ => imp_congr_right fun hopened => ?_
  have hsince : chat.since setup =
      min (max ((chat.cursor .buyer).getD setup.session.openedAt) 0).toNat
        (max ((chat.cursor .seller).getD setup.session.openedAt) 0).toNat := rfl
  rw [hsince, min_le_iff, h.cursor_le_iff hopened, h.cursor_le_iff hopened]
  constructor
  · rintro (hbuyer | hseller)
    · exact ⟨.buyer, hbuyer⟩
    · exact ⟨.seller, hseller⟩
  · rintro ⟨party, hparty⟩
    cases party with
    | buyer => exact Or.inl hparty
    | seller => exact Or.inr hparty

/-! ### A message delivered late -/

/-- An active session opened at 100, and events whose content is plain. -/
def plainChat : ChatSetup :=
  { session := { NewSession.row ⟨0, 1, none, none, none, none, 100⟩ with state := .active }
    maxMessageChars := 2000
    unwrap := fun event _ => .ok ⟨event.outerId, "text", 0, event.createdAt⟩ }

/-- The relays deliver the buyer's second message and one of the seller, and the process restarts
before they deliver the buyer's first. -/
def lateRun : List ChatInput :=
  [.openChannels, .publish ⟨1, 150, .buyer⟩, .publish ⟨2, 200, .buyer⟩, .publish ⟨3, 180, .seller⟩,
    .deliver ⟨2, 200, .buyer⟩ false false 210, .deliver ⟨3, 180, .seller⟩ false false 211, .restart]

/-- The filter no longer matches the buyer's first message. -/
theorem not_recoverable :
    ¬∀ (setup : ChatSetup) (inputs : List ChatInput) (event : ChatEvent),
      (run setup inputs).Missing setup event → setup.session.openedAt ≤ event.createdAt →
        (run setup inputs).since setup ≤ event.createdAt := by
  intro recovers
  have hmissing : (run plainChat lateRun).Missing plainChat ⟨1, 150, .buyer⟩ := by
    refine ⟨by decide +kernel, 210, ⟨1, "text", 0, 150⟩, rfl, ?_⟩
    decide +kernel
  have hlate := recovers plainChat lateRun ⟨1, 150, .buyer⟩ hmissing (by decide)
  revert hlate
  decide +kernel

end Chat

end Serbero
