import Serbero.Mostro.Sync

/-! # Taking a dispute

The node's info is read from the first relay to answer and those that answer soon after it. Then the
take is sent, and the first reply of the node that answers this request decides; everything else that
arrives is passed over. -/

namespace Serbero

/-! ## The newest answer -/

/-- The best of the answers by rank: the first one, and what arrives within `grace` of it. Each comes
with its time in milliseconds. -/
def newestAnswer {α κ : Type*} [LinearOrder κ] (grace : Nat) (rank : α → κ) :
    List (Nat × α) → Option α
  | [] => none
  | (first, answer) :: rest =>
    some ((rest.takeWhile fun later => decide (later.1 ≤ first + grace)).foldl
      (fun newest later => if rank newest < rank later.2 then later.2 else newest) answer)

/-- The answers that are waited for. -/
def waitedFor {α : Type*} (grace : Nat) : List (Nat × α) → List α
  | [] => []
  | (first, answer) :: rest =>
    answer :: (rest.takeWhile fun later => decide (later.1 ≤ first + grace)).map Prod.snd

/-- Keeping the better of two, one after the other, keeps the first of the greatest rank. -/
theorem foldl_better {α κ : Type*} [LinearOrder κ] (rank : α → κ) (answer : α)
    (later : List (Nat × α)) :
    some (later.foldl (fun newest later => if rank newest < rank later.2 then later.2 else newest)
      answer) = (answer :: later.map Prod.snd).argmax rank := by
  induction later using List.reverseRecOn with
  | nil => rw [List.foldl_nil, List.map_nil, List.argmax_singleton]
  | append_singleton later entry ih =>
    rw [List.foldl_concat, List.map_append, List.map_singleton, ← List.cons_append,
      List.argmax_concat, ← ih]
    simp only []
    split <;> rfl

/-- **The newest answer** is the first of the greatest rank among those waited for. -/
theorem newestAnswer_eq {α κ : Type*} [LinearOrder κ] (grace : Nat) (rank : α → κ)
    (answers : List (Nat × α)) :
    newestAnswer grace rank answers = (waitedFor grace answers).argmax rank := by
  cases answers with
  | nil => rfl
  | cons first rest => exact foldl_better rank first.2 _

/-- How long to keep listening after the first copy. -/
def answerGrace : Nat := 750

/-- The newest copy of an event that a request hears of; answers that fail are dropped. -/
def newestEvent (answers : List (Nat × Except String NostrEvent)) : Option NostrEvent :=
  newestAnswer answerGrace NostrEvent.rank
    (answers.filterMap fun answer => answer.2.toOption.map (answer.1, ·))

/-- Why the node's info is not read. -/
inductive NodeError
  | request (detail : String)
  | event (why : InvalidEvent)
  deriving DecidableEq, Repr

/-- What a request for one event comes to: its answers, unless it cannot be made. -/
abbrev Request := Except String (List (Nat × Except String NostrEvent))

/-- The node's newest info. -/
def NodeInfo.fetch : Request → Except NodeError (Option NodeInfo)
  | .error detail => .error (.request detail)
  | .ok answers =>
    match newestEvent answers with
    | none => .ok none
    | some event =>
      match NodeInfo.fromEvent event with
      | .error why => .error (.event why)
      | .ok info => .ok (some info)

/-- The newest facts of an order; a failure only means unknown facts. -/
def OrderEvent.fetch : Request → OrderEvent
  | .error _ => .unknown
  | .ok answers => (newestEvent answers).elim .unknown OrderEvent.fromEvent

/-- The copies of an event that are waited for. -/
def heardInTime (answers : List (Nat × Except String NostrEvent)) : List NostrEvent :=
  waitedFor answerGrace (answers.filterMap fun answer => answer.2.toOption.map (answer.1, ·))

/-- An event is newer by NIP-01, or the same. -/
theorem NostrEvent.rank_le {event other : NostrEvent} :
    other.rank ≤ event.rank ↔ other.createdAt < event.createdAt ∨
      other.createdAt = event.createdAt ∧ event.id ≤ other.id := by
  rw [NostrEvent.rank, NostrEvent.rank, Prod.Lex.le_iff]
  rfl

/-- Nothing is read exactly where nothing was heard. -/
theorem newestEvent_eq_none_iff {answers : List (Nat × Except String NostrEvent)} :
    newestEvent answers = none ↔ heardInTime answers = [] := by
  rw [newestEvent, newestAnswer_eq, List.argmax_eq_none]
  rfl

/-- Where each copy comes under its own id, the one no other is newer than is read. -/
theorem newestEvent_eq_of_top {answers : List (Nat × Except String NostrEvent)}
    (hids : ∀ a ∈ heardInTime answers, ∀ b ∈ heardInTime answers, a.id = b.id → a = b)
    {event : NostrEvent} (hevent : event ∈ heardInTime answers)
    (htop : ∀ other ∈ heardInTime answers, other.createdAt < event.createdAt ∨
      other.createdAt = event.createdAt ∧ event.id ≤ other.id) :
    newestEvent answers = some event := by
  have hnewest : newestEvent answers = (heardInTime answers).argmax NostrEvent.rank :=
    newestAnswer_eq answerGrace NostrEvent.rank _
  cases hbest : (heardInTime answers).argmax NostrEvent.rank with
  | none =>
    rw [List.argmax_eq_none.mp hbest] at hevent
    exact absurd hevent List.not_mem_nil
  | some best =>
    have hmem := List.argmax_mem hbest
    have hle := List.le_of_mem_argmax hevent hbest
    have hge := NostrEvent.rank_le.mpr (htop best hmem)
    -- The two rank alike, so they have one id.
    have hid : event.id = best.id := by
      rcases NostrEvent.rank_le.mp hle with hlt | ⟨htime, hid⟩
      · rcases NostrEvent.rank_le.mp hge with hgt | ⟨htime, -⟩
        · omega
        · omega
      · rcases NostrEvent.rank_le.mp hge with hgt | ⟨-, hid'⟩
        · omega
        · omega
    rw [hnewest, hbest, hids event hevent best hmem hid]

/-- **The newest copy decides.** Let the copies that are waited for be events the node published, each
under its own id. In whatever order and however often they come, the node's info is that of the one no
other is newer than. -/
theorem fetch_newest {answers : List (Nat × Except String NostrEvent)}
    {infoOf : NostrEvent → NodeInfo}
    (hpublished : ∀ event ∈ heardInTime answers,
      Publishes NodeInfo.tagNames (infoOf event).tags event.tags)
    (hids : ∀ a ∈ heardInTime answers, ∀ b ∈ heardInTime answers, a.id = b.id → a = b) :
    (NodeInfo.fetch (.ok answers) = .ok none ↔ heardInTime answers = []) ∧
    ∀ event ∈ heardInTime answers,
      (∀ other ∈ heardInTime answers, other.createdAt < event.createdAt ∨
        other.createdAt = event.createdAt ∧ event.id ≤ other.id) →
          NodeInfo.fetch (.ok answers) = .ok (some (infoOf event)) := by
  have hread : ∀ event ∈ heardInTime answers, newestEvent answers = some event →
      NodeInfo.fetch (.ok answers) = .ok (some (infoOf event)) := by
    intro event hevent hfound
    rw [NodeInfo.fetch, hfound]
    simp only []
    rw [NodeInfo.fromEvent_of_publishes (hpublished event hevent)]
  refine ⟨?_, fun event hevent htop => hread event hevent (newestEvent_eq_of_top hids hevent htop)⟩
  rw [← newestEvent_eq_none_iff]
  cases hfound : newestEvent answers with
  | none => simp only [NodeInfo.fetch, hfound]
  | some event =>
    have hevent : event ∈ heardInTime answers := by
      rw [newestEvent, newestAnswer_eq] at hfound
      exact List.argmax_mem hfound
    rw [hread event hevent hfound]
    simp

/-- A node's info event. -/
def infoEvent (id createdAt : Nat) (info : NodeInfo) : NostrEvent :=
  { id := id
    kind := 38385
    author := "node"
    createdAt := createdAt
    tags := ["d", "node"] :: info.tags }

/-- A relay holds an old copy, one fails, and one with the newest copy answers soon after; the last
one is too late. -/
def infoAnswers : List (Nat × Except String NostrEvent) :=
  [(10, .ok (infoEvent 1 100 ⟨some "1", 0, none⟩)), (20, .error "closed"),
    (30, .ok (infoEvent 2 200 ⟨some "2", 4, some 12⟩)),
    (900, .ok (infoEvent 3 300 ⟨some "3", 0, none⟩))]

/-- The newer of the two orders is the one that is heard. -/
theorem fetch_newest_heard :
    let infoOf := fun event : NostrEvent =>
      if event.id = 1 then (⟨some "1", 0, none⟩ : NodeInfo) else ⟨some "2", 4, some 12⟩
    (NodeInfo.fetch (.ok infoAnswers) = .ok none ↔ heardInTime infoAnswers = []) ∧
    ∀ event ∈ heardInTime infoAnswers,
      (∀ other ∈ heardInTime infoAnswers, other.createdAt < event.createdAt ∨
        other.createdAt = event.createdAt ∧ event.id ≤ other.id) →
          NodeInfo.fetch (.ok infoAnswers) = .ok (some (infoOf event)) :=
  fetch_newest (by decide +kernel) (by decide +kernel)

/-- **The facts of an order** are those of its newest copy, read as the node wrote them. They are
unknown where nothing was heard, or nothing could be asked. -/
theorem OrderEvent.fetch_of_top {answers : List (Nat × Except String NostrEvent)}
    {factsOf : NostrEvent → String × Int}
    (hfacts : ∀ event ∈ heardInTime answers, (factsOf event).1 ≠ "" ∧
      i64Min ≤ (factsOf event).2 ∧ (factsOf event).2 ≤ i64Max ∧
        Publishes tagNames (tags (factsOf event).1 (factsOf event).2) event.tags)
    (hids : ∀ a ∈ heardInTime answers, ∀ b ∈ heardInTime answers, a.id = b.id → a = b) :
    (∀ why, fetch (.error why) = unknown) ∧
    (heardInTime answers = [] → fetch (.ok answers) = unknown) ∧
    ∀ event ∈ heardInTime answers,
      (∀ other ∈ heardInTime answers, other.createdAt < event.createdAt ∨
        other.createdAt = event.createdAt ∧ event.id ≤ other.id) →
          fetch (.ok answers) = ⟨some (factsOf event).1, some (factsOf event).2⟩ := by
  refine ⟨fun why => rfl, fun hnil => ?_, fun event hevent htop => ?_⟩
  · rw [fetch, newestEvent_eq_none_iff.mpr hnil]
    rfl
  · obtain ⟨hcode, hlow, hhigh, hpublished⟩ := hfacts event hevent
    rw [fetch, newestEvent_eq_of_top hids hevent htop]
    exact fromEvent_of_publishes hcode hlow hhigh hpublished

/-! ## Replies -/

/-- The actions a take looks for. -/
inductive NodeAction
  | cantDo
  | adminTookDispute
  | other (name : String)
  deriving DecidableEq, Repr

/-- A dispute's id as a number. -/
abbrev Uuid := Nat

/-- What a message carries. -/
inductive NodePayload
  | dispute (id : Uuid) (info : Option SolverDisputeInfo)
  | other (shown : String)
  deriving DecidableEq, Repr

/-- A message of the node; `cantDo` is a kind of its own, beside the action of that name. -/
structure NodeMessage where
  isCantDo : Bool
  requestId : Option Nat
  action : NodeAction
  payload : Option NodePayload
  deriving DecidableEq, Repr

/-- Why a take did not succeed. -/
inductive TakeError
  | timeout
  | refused (payload : Option NodePayload)
  | missingInfo
  | transport (detail : String)
  deriving DecidableEq, Repr

/-- What a reply means for a pending take. Which dispute it is about is not looked at. -/
def interpret (message : NodeMessage) (requestId : Nat) :
    Option (Except TakeError SolverDisputeInfo) :=
  if message.requestId ≠ some requestId then none
  else if message.isCantDo ∨ message.action = .cantDo then some (.error (.refused message.payload))
  else
    match message.action, message.payload with
    | .adminTookDispute, some (.dispute _ (some info)) => some (.ok info)
    | .adminTookDispute, _ => some (.error .missingInfo)
    | _, _ => none

/-- What the client reports while a take waits. -/
inductive Notification
  | event (event : NostrEvent)
  | other
  deriving DecidableEq, Repr

def privateDirectMessage : Nat := 14

/-- What is needed to read the node's replies: its key, and how a message for Serbero is opened. -/
structure Mailbox where
  mostro : String
  unwrap : NostrEvent → Except String (Option NodeMessage)

namespace Mailbox

variable (mailbox : Mailbox) (requestId timeout : Nat)

/-- What an event means for a pending take. -/
def reads (event : NostrEvent) : Option (Except TakeError SolverDisputeInfo) :=
  if event.kind ≠ privateDirectMessage ∨ event.author ≠ mailbox.mostro then none
  else
    match mailbox.unwrap event with
    | .ok (some message) => interpret message requestId
    | _ => none

/-- What a notification means for a pending take. -/
def decides : Notification → Option (Except TakeError SolverDisputeInfo)
  | .other => none
  | .event event => mailbox.reads requestId event

/-- Waits for the reply that decides. `ended` says whether the notifications end, or the wait does. -/
def awaitReply (ended : Bool) :
    List (Nat × Notification) → Except TakeError SolverDisputeInfo
  | [] => .error (if ended then .transport "notification stream ended" else .timeout)
  | (time, notification) :: rest =>
    if timeout < time then .error .timeout
    else
      match mailbox.decides requestId notification with
      | some result => result
      | none => awaitReply ended rest

variable {mailbox requestId timeout} {ended : Bool} {notifications : List (Nat × Notification)}

/-- **What decides** is the first notification in time that does. -/
theorem awaitReply_ok_iff {info : SolverDisputeInfo} :
    mailbox.awaitReply requestId timeout ended notifications = .ok info ↔
      ∃ before time notification after,
        notifications = before ++ (time, notification) :: after ∧
        mailbox.decides requestId notification = some (.ok info) ∧ time ≤ timeout ∧
        ∀ earlier ∈ before, earlier.1 ≤ timeout ∧ mailbox.decides requestId earlier.2 = none := by
  induction notifications with
  | nil =>
    unfold awaitReply
    simp
  | cons first rest ih =>
    obtain ⟨at', notification⟩ := first
    unfold awaitReply
    -- The first notice comes too late: whatever follows is never read.
    by_cases hlate : timeout < at'
    · rw [if_pos hlate]
      refine iff_of_false (by simp) ?_
      rintro ⟨before, time, found, after, hsplit, -, htime, hbefore⟩
      cases before with
      | nil =>
        rw [List.nil_append, List.cons.injEq, Prod.mk.injEq] at hsplit
        omega
      | cons earlier before =>
        rw [List.cons_append, List.cons.injEq] at hsplit
        have hle := (hbefore earlier List.mem_cons_self).1
        rw [← hsplit.1] at hle
        omega
    · rw [if_neg hlate]
      have hintime : at' ≤ timeout := not_lt.mp hlate
      -- The first notice that decides is the answer; one that does not is passed over.
      cases hdecides : mailbox.decides requestId notification with
      | some result =>
        simp only []
        constructor
        · rintro rfl
          exact ⟨[], at', notification, rest, rfl, hdecides, hintime,
            fun earlier hearlier => absurd hearlier List.not_mem_nil⟩
        · rintro ⟨before, time, found, after, hsplit, hfound, -, hbefore⟩
          cases before with
          | nil =>
            rw [List.nil_append, List.cons.injEq, Prod.mk.injEq] at hsplit
            rw [← hsplit.1.2, hdecides, Option.some.injEq] at hfound
            exact hfound
          | cons earlier before =>
            rw [List.cons_append, List.cons.injEq] at hsplit
            have hnone := (hbefore earlier List.mem_cons_self).2
            rw [← hsplit.1, hdecides] at hnone
            cases hnone
      | none =>
        simp only []
        rw [ih]
        constructor
        · rintro ⟨before, time, found, after, hsplit, hfound, htime, hbefore⟩
          refine ⟨(at', notification) :: before, time, found, after, by rw [hsplit]; rfl, hfound,
            htime, fun earlier hearlier => ?_⟩
          rcases List.mem_cons.mp hearlier with rfl | hmem
          · exact ⟨hintime, hdecides⟩
          · exact hbefore earlier hmem
        · rintro ⟨before, time, found, after, hsplit, hfound, htime, hbefore⟩
          cases before with
          | nil =>
            rw [List.nil_append, List.cons.injEq, Prod.mk.injEq] at hsplit
            rw [← hsplit.1.2, hdecides] at hfound
            cases hfound
          | cons earlier before =>
            rw [List.cons_append, List.cons.injEq] at hsplit
            exact ⟨before, time, found, after, hsplit.2, hfound, htime, fun other hother =>
              hbefore other (List.mem_cons_of_mem _ hother)⟩

end Mailbox

/-! ## The take -/

/-- What a take meets on its way. -/
structure TakeInput where
  /-- The node's info. -/
  node : Request
  disputeId : String
  /-- Reading an id. -/
  parseUuid : String → Except String Uuid
  subscribed : Except String Unit
  /-- Building the request for a dispute, mined to a difficulty. -/
  wrapped : Uuid → UInt8 → Except String Unit
  /-- How many relays accepted it. -/
  sent : Except String Nat
  requestId : Nat
  notifications : List (Nat × Notification)
  ended : Bool

/-- Why a dispute is not taken. -/
inductive TakeFailure
  | nodeInfo (why : NodeError)
  | noNodeInfo
  | notV2
  | notUuid (detail : String)
  | failed (why : TakeError)
  deriving DecidableEq, Repr

/-- Sends the take of a dispute, mined to a difficulty, and waits for the reply to it. -/
def takeDispute (mailbox : Mailbox) (timeout : Nat) (id : Uuid) (pow : UInt8) (input : TakeInput) :
    Except TakeError SolverDisputeInfo :=
  match input.subscribed with
  | .error detail => .error (.transport s!"cannot subscribe to node replies: {detail}")
  | .ok () =>
    match input.wrapped id pow with
    | .error detail => .error (.transport s!"cannot build admin-take-dispute: {detail}")
    | .ok () =>
      match input.sent with
      | .error detail => .error (.transport s!"cannot send admin-take-dispute: {detail}")
      | .ok accepted =>
        if accepted = 0 then .error (.transport "no relay accepted admin-take-dispute")
        else mailbox.awaitReply input.requestId timeout input.ended input.notifications

/-- The node must speak protocol v2; then the take. -/
def take (mailbox : Mailbox) (timeout : Nat) (input : TakeInput) :
    Except TakeFailure SolverDisputeInfo :=
  match NodeInfo.fetch input.node with
  | .error why => .error (.nodeInfo why)
  | .ok none => .error .noNodeInfo
  | .ok (some node) =>
    if !node.speaksV2 then .error .notV2
    else
      match input.parseUuid input.disputeId with
      | .error detail => .error (.notUuid detail)
      | .ok id => (takeDispute mailbox timeout id node.powForSerbero input).mapError .failed

/-- A reply to this request that gives a dispute's details away, whichever dispute it names. -/
structure Mailbox.Gives (mailbox : Mailbox) (requestId : Nat) (info : SolverDisputeInfo)
    (event : NostrEvent) : Prop where
  kind : event.kind = privateDirectMessage
  author : event.author = mailbox.mostro
  opened : ∃ id, mailbox.unwrap event =
    .ok (some ⟨false, some requestId, .adminTookDispute, some (.dispute id (some info))⟩)

/-- What a reply of dispute information is. -/
theorem interpret_eq_ok_iff {message : NodeMessage} {requestId : Nat} {info : SolverDisputeInfo} :
    interpret message requestId = some (.ok info) ↔
      ∃ id, message =
        ⟨false, some requestId, .adminTookDispute, some (.dispute id (some info))⟩ := by
  obtain ⟨isCantDo, found, action, payload⟩ := message
  unfold interpret
  constructor
  · intro h
    split at h
    · cases h
    next hid =>
    split at h
    · cases h
    next hcant =>
    split at h
    · next id found haction hpayload =>
      rw [Option.some.injEq, Except.ok.injEq] at h
      simp only [not_or] at hcant hid haction hpayload
      rw [h] at hpayload
      exact ⟨id, by rw [haction, hpayload, not_not.mp hid, Bool.eq_false_iff.mpr hcant.1]⟩
    · cases h
    · cases h
  · rintro ⟨id, h⟩
    rw [NodeMessage.mk.injEq] at h
    obtain ⟨rfl, rfl, rfl, rfl⟩ := h
    simp

/-- Only the node's own answer gives a dispute away. -/
theorem Mailbox.decides_eq_ok_iff {mailbox : Mailbox} {requestId : Nat} {info : SolverDisputeInfo}
    {notification : Notification} :
    mailbox.decides requestId notification = some (.ok info) ↔
      ∃ event, notification = .event event ∧ mailbox.Gives requestId info event := by
  cases notification with
  | other => simp [decides]
  | event event =>
    have hreads : mailbox.decides requestId (.event event) = mailbox.reads requestId event := rfl
    rw [hreads, reads]
    constructor
    · intro h
      split at h
      · cases h
      next hfrom =>
      split at h
      · next message hmessage =>
        rw [not_or, not_not, not_not] at hfrom
        obtain ⟨id, hopened⟩ := interpret_eq_ok_iff.mp h
        exact ⟨event, rfl, hfrom.1, hfrom.2, id, by rw [hmessage, hopened]⟩
      · cases h
    · rintro ⟨found, heq, hgives⟩
      cases heq
      obtain ⟨id, hopened⟩ := hgives.opened
      rw [if_neg (by simp [hgives.kind, hgives.author]), hopened]
      exact interpret_eq_ok_iff.mpr ⟨id, rfl⟩

/-- **When a take succeeds.** The newest info of the node that was heard of in time says protocol v2;
the request for the dispute was mined to both of the node's difficulties and a relay accepted it; and
within the timeout the node answered this very request with a dispute's details, before anything else
that decides. -/
theorem take_eq_ok_iff {mailbox : Mailbox} {timeout : Nat} {input : TakeInput}
    {info : SolverDisputeInfo} :
    take mailbox timeout input = .ok info ↔
      (∃ answers event node id, input.node = .ok answers ∧ newestEvent answers = some event ∧
        NodeInfo.fromEvent event = .ok node ∧ node.protocolVersion = some "2" ∧
          input.parseUuid input.disputeId = .ok id ∧
          input.wrapped id (max (node.powFirstContact.getD 0) node.pow) = .ok ()) ∧
      input.subscribed = .ok () ∧
      (∃ accepted, input.sent = .ok accepted ∧ 0 < accepted) ∧
      ∃ before time event after, input.notifications = before ++ (time, .event event) :: after ∧
        mailbox.Gives input.requestId info event ∧ time ≤ timeout ∧
          ∀ earlier ∈ before, earlier.1 ≤ timeout ∧
            mailbox.decides input.requestId earlier.2 = none := by
  have hreply : mailbox.awaitReply input.requestId timeout input.ended input.notifications =
      .ok info ↔ ∃ before time event after,
        input.notifications = before ++ (time, .event event) :: after ∧
          mailbox.Gives input.requestId info event ∧ time ≤ timeout ∧
            ∀ earlier ∈ before, earlier.1 ≤ timeout ∧
              mailbox.decides input.requestId earlier.2 = none := by
    rw [Mailbox.awaitReply_ok_iff]
    constructor
    · rintro ⟨before, time, notification, after, hsplit, hdecides, htime, hbefore⟩
      obtain ⟨event, rfl, hgives⟩ := Mailbox.decides_eq_ok_iff.mp hdecides
      exact ⟨before, time, event, after, hsplit, hgives, htime, hbefore⟩
    · rintro ⟨before, time, event, after, hsplit, hgives, htime, hbefore⟩
      exact ⟨before, time, _, after, hsplit, Mailbox.decides_eq_ok_iff.mpr ⟨event, rfl, hgives⟩,
        htime, hbefore⟩
  rw [← hreply]
  constructor
  · intro h
    -- Each `split` is one way `take` gives up, in the order of the source.
    unfold take at h
    split at h
    · cases h
    · cases h
    next node hnode =>
    split at h
    · cases h
    next hv2 =>
    split at h
    · cases h
    next id huuid =>
    unfold takeDispute at h
    split at h
    · cases h
    next hsubscribed =>
    split at h
    · cases h
    next hwrapped =>
    split at h
    · cases h
    next accepted hsent =>
    split at h
    · cases h
    next haccepted =>
    refine ⟨?_, hsubscribed, ⟨accepted, hsent, Nat.pos_of_ne_zero haccepted⟩, ?_⟩
    -- The node's newest event was found, it parsed, and it speaks version 2.
    · unfold NodeInfo.fetch at hnode
      split at hnode
      · cases hnode
      next answers hanswers =>
      split at hnode
      · cases hnode
      next event hevent =>
      split at hnode
      · cases hnode
      next found hfound =>
      cases hnode
      refine ⟨answers, event, node, id, hanswers, hevent, hfound, ?_, huuid, hwrapped⟩
      simpa [NodeInfo.speaksV2] using hv2
    · cases hresult : mailbox.awaitReply input.requestId timeout input.ended input.notifications with
      | error why =>
        rw [hresult] at h
        cases h
      | ok found =>
        rw [hresult] at h
        cases h
        rfl
  · rintro ⟨⟨answers, event, node, id, hanswers, hevent, hfound, hversion, huuid, hwrapped⟩,
      hsubscribed, ⟨accepted, hsent, haccepted⟩, hresult⟩
    have hnode : NodeInfo.fetch input.node = .ok (some node) := by
      rw [hanswers, NodeInfo.fetch, hevent]
      simp only []
      rw [hfound]
    have hv2 : (!node.speaksV2) = false := by simp [NodeInfo.speaksV2, hversion]
    have hmined : input.wrapped id node.powForSerbero = .ok () := hwrapped
    rw [take, hnode]
    simp only [hv2, Bool.false_eq_true, if_false, huuid, takeDispute, hsubscribed, hmined, hsent,
      if_neg haccepted.ne', hresult]
    rfl

end Serbero
