import Mathlib.Data.List.Induction
import Serbero.Store.Rows

/-! # The judge state

What code tells the judge about a session: the order facts, the transcript with short ids (`m1`,
`m2`, … in transcript order), and for each party the ids of its messages since Serbero last wrote to
it. Nostr identifiers are redacted from every text. The fixed role descriptions are left out. -/

namespace Serbero

/-! ## Redaction -/

/-- Placeholder for a redacted identifier. -/
def redacted : List Char := "[redacted]".toList

/-- An ASCII hexadecimal digit. -/
def isHexDigit (c : Char) : Bool :=
  c.isDigit || ('a' ≤ c && c ≤ 'f') || ('A' ≤ c && c ≤ 'F')

/-- A key, an event id or a NIP-19 word; `nip19` says which lower-case words parse as one. -/
def isNostrIdentifier (nip19 : List Char → Bool) (word : List Char) : Bool :=
  (word.length == 64 && word.all isHexDigit) ||
    let lower := word.map Char.toLower
    lower.head? == some 'n' && nip19 lower

/-- A finished word, redacted when it is an identifier. -/
def flushWord (nip19 : List Char → Bool) (word : List Char) : List Char :=
  if isNostrIdentifier nip19 word then redacted else word

/-- Replaces every identifier; `word` is the run of ASCII letters and digits read so far. -/
def redactFrom (nip19 : List Char → Bool) (word : List Char) : List Char → List Char
  | [] => flushWord nip19 word
  | c :: rest =>
    if c.isAlphanum then redactFrom nip19 (word ++ [c]) rest
    else flushWord nip19 word ++ c :: redactFrom nip19 [] rest

/-- Replaces every word that is a Nostr identifier. -/
def redact (nip19 : List Char → Bool) (text : String) : String :=
  String.ofList (redactFrom nip19 [] text.toList)

/-- The first `max` characters. -/
def truncate (text : String) (max : Nat) : String := String.ofList (text.toList.take max)

/-! ## The state -/

/-- Who wrote a transcript line. -/
inductive Speaker
  | party (party : Party)
  /-- Serbero, writing to this party. -/
  | serbero (recipient : Party)
  deriving DecidableEq, Repr

/-- One message of the transcript. -/
structure TranscriptEntry where
  id : String
  speaker : Speaker
  text : String
  /-- How many attachments; absent when there are none. -/
  attachments : Option Nat
  deriving DecidableEq, Repr

/-- The order facts Serbero may show; unknown facts are left out. -/
structure OrderFacts where
  fiatAmount : Option String
  fiatCode : Option String
  paymentMethod : Option String
  disputeOpenedBy : Option Initiator
  deriving DecidableEq, Repr

/-- The state the judge reads. -/
structure JudgeState where
  order : OrderFacts
  transcript : List TranscriptEntry
  latestBuyer : List String
  latestSeller : List String
  deriving DecidableEq, Repr

/-- A party's messages since Serbero last wrote to it. -/
def JudgeState.latest (state : JudgeState) : Party → List String
  | .buyer => state.latestBuyer
  | .seller => state.latestSeller

/-- The order facts of a session. -/
def orderFacts (session : Session) (openedBy : Initiator) : OrderFacts :=
  { fiatAmount := session.fiatAmount
    fiatCode := session.fiatCode
    paymentMethod := session.paymentMethod
    disputeOpenedBy := if openedBy = .unknown then none else some openedBy }

/-- The short id of the message at a position. -/
def shortId (index : Nat) : String := "m" ++ toString (index + 1)

/-- The transcript entry of the message at a position. -/
def transcriptEntry (nip19 : List Char → Bool) (maxChars : Nat) (message : Message) (index : Nat) :
    TranscriptEntry :=
  { id := shortId index
    speaker := match message.direction with
      | .outbound => .serbero message.party
      | .inbound => .party message.party
    text := truncate (redact nip19 message.content) maxChars
    attachments := if 0 < message.attachments then some message.attachments else none }

/-- A party's latest messages once one more message is read: what Serbero writes to the party
clears them. -/
def nextLatest (party : Party) (latest : List String) (message : Message) (index : Nat) :
    List String :=
  if message.party = party then
    match message.direction with
    | .outbound => []
    | .inbound => latest ++ [shortId index]
  else latest

/-- Reads one more message into a state. -/
def JudgeState.push (nip19 : List Char → Bool) (maxChars : Nat) (state : JudgeState)
    (entry : Message × Nat) : JudgeState :=
  { state with
    transcript := state.transcript ++ [transcriptEntry nip19 maxChars entry.1 entry.2]
    latestBuyer := nextLatest .buyer state.latestBuyer entry.1 entry.2
    latestSeller := nextLatest .seller state.latestSeller entry.1 entry.2 }

/-- Builds the state from a session, who opened the dispute, and the session's messages in
transcript order. -/
def buildState (nip19 : List Char → Bool) (session : Session) (openedBy : Initiator)
    (messages : List Message) (maxChars : Nat) : JudgeState :=
  messages.zipIdx.foldl (JudgeState.push nip19 maxChars)
    { order := orderFacts session openedBy, transcript := [], latestBuyer := [],
      latestSeller := [] }

section build

variable {nip19 : List Char → Bool} {session : Session} {openedBy : Initiator}
  {messages : List Message} {maxChars : Nat}

/-- The state after one more message. -/
theorem buildState_append_singleton (message : Message) :
    buildState nip19 session openedBy (messages ++ [message]) maxChars =
      (buildState nip19 session openedBy messages maxChars).push nip19 maxChars
        (message, messages.length) := by
  simp [buildState, List.zipIdx_append]

/-- **The transcript.** One entry for each message, in transcript order. -/
theorem transcript_buildState :
    (buildState nip19 session openedBy messages maxChars).transcript =
      messages.zipIdx.map fun entry => transcriptEntry nip19 maxChars entry.1 entry.2 := by
  induction messages using List.reverseRecOn with
  | nil => rfl
  | append_singleton messages message ih =>
    rw [buildState_append_singleton, JudgeState.push, ih]
    simp [List.zipIdx_append]

/-- A party's latest messages after one more message. -/
theorem latest_append_singleton (message : Message) (party : Party) :
    (buildState nip19 session openedBy (messages ++ [message]) maxChars).latest party =
      nextLatest party ((buildState nip19 session openedBy messages maxChars).latest party) message
        messages.length := by
  rw [buildState_append_singleton]
  cases party <;> rfl

/-- **Who has something new.** A party has latest messages exactly when some message of it has no
message to it anywhere after it in the transcript. -/
theorem latest_ne_nil_iff (party : Party) :
    (buildState nip19 session openedBy messages maxChars).latest party ≠ [] ↔
      ∃ before message after, messages = before ++ message :: after ∧
        message.isFrom party = true ∧ ∀ later ∈ after, later.isTo party = false := by
  induction messages using List.reverseRecOn with
  | nil =>
    refine iff_of_false ?_ ?_
    · cases party <;> simp [buildState, JudgeState.latest]
    · rintro ⟨before, message, after, h, -⟩
      exact absurd h (by simp)
  | append_singleton messages last ih =>
    rw [latest_append_singleton, nextLatest]
    -- The last message clears, extends or leaves alone the party's list.
    by_cases hto : last.isTo party = true
    · have hparty : last.party = party ∧ last.direction = .outbound := by
        simpa [Message.isTo, and_comm] using hto
      rw [if_pos hparty.1, hparty.2]
      refine iff_of_false (by simp) ?_
      rintro ⟨before, message, after, h, hfrom, hafter⟩
      rcases List.eq_nil_or_concat after with rfl | ⟨after', later, rfl⟩
      · obtain ⟨-, hlast⟩ := List.append_inj' h rfl
        rw [List.cons.injEq] at hlast
        rw [← hlast.1] at hfrom
        simp [Message.isFrom, hparty] at hfrom
      · rw [List.concat_eq_append] at h hafter
        have h : messages ++ [last] = (before ++ message :: after') ++ [later] := by simpa using h
        have hlast := List.singleton_injective (List.append_inj' h rfl).2
        have := hafter later (by simp)
        rw [← hlast, hto] at this
        exact absurd this (by simp)
    by_cases hfrom : last.isFrom party = true
    · have hparty : last.party = party ∧ last.direction = .inbound := by
        simpa [Message.isFrom, and_comm] using hfrom
      rw [if_pos hparty.1, hparty.2]
      exact iff_of_true (by simp) ⟨messages, last, [], rfl, hfrom, by simp⟩
    · have hother : last.party ≠ party := by
        intro h
        cases hd : last.direction <;> simp [Message.isTo, Message.isFrom, h, hd] at hto hfrom
      rw [if_neg hother, ih]
      constructor
      · rintro ⟨before, message, after, rfl, hm, hafter⟩
        refine ⟨before, message, after ++ [last], by simp, hm, ?_⟩
        intro later hlater
        rcases List.mem_append.mp hlater with h | h
        · exact hafter later h
        · rw [List.mem_singleton.mp h]
          simpa using hto
      · rintro ⟨before, message, after, h, hm, hafter⟩
        rcases List.eq_nil_or_concat after with rfl | ⟨after', later, rfl⟩
        · obtain ⟨-, hlast⟩ := List.append_inj' h rfl
          rw [List.cons.injEq] at hlast
          rw [← hlast.1] at hm
          exact absurd hm hfrom
        · rw [List.concat_eq_append] at h hafter
          refine ⟨before, message, after', ?_, hm, fun m hm => hafter m (by simp [hm])⟩
          have h : messages ++ [last] = (before ++ message :: after') ++ [later] := by simpa using h
          exact (List.append_inj' h rfl).1

end build

end Serbero
