import Serbero.Mostro.Published
import Serbero.Runtime.Backlog

/-! # The backlog, event by event

The sync picks the newest event of each dispute before it reads any. On events the node published
that is the sync of their revisions. -/

namespace Serbero

/-- Newest follows NIP-01: the later `created_at`, then the lowest id. -/
def NostrEvent.rank (event : NostrEvent) : Nat ×ₗ Natᵒᵈ :=
  toLex (event.createdAt, OrderDual.toDual event.id)

/-- Keeps an event if its `d` tag has none yet, or an older one; an event without one is skipped. -/
def keepNewestEvent (newest : List NostrEvent) (event : NostrEvent) : List NostrEvent :=
  match tagValue event.tags "d" with
  | none => newest
  | some id =>
    match newest.find? fun kept => tagValue kept.tags "d" == some id with
    | none => newest ++ [event]
    | some kept =>
      if kept.rank < event.rank then
        newest.map fun row => if tagValue row.tags "d" == some id then event else row
      else newest

/-- The newest event of each dispute, oldest first. -/
def newestEvents (events : List NostrEvent) : List NostrEvent :=
  (events.foldl keepNewestEvent []).insertionSort fun a b =>
    toLex (a.createdAt, a.id) ≤ toLex (b.createdAt, b.id)

/-- The revision an event stands for. `idOf` names disputes, and `mark` is what is kept of an event
for the record only. -/
def PublishedDispute.revision (dispute : PublishedDispute) (idOf : String → DisputeId)
    (mark : Nat × Bool) : DisputeEvent :=
  ⟨idOf dispute.disputeId, dispute.initiator, dispute.status, dispute.revisionAt, mark.1, mark.2⟩

/-- Applies the newest event of each dispute; one that cannot be read is logged. -/
def Store.syncEvents (store : Store) (mostro : String) (idOf : String → DisputeId)
    (mark : NostrEvent → Nat × Bool) (events : List NostrEvent) (now : Int) : Store :=
  store.notifierSteps ((newestEvents events).filterMap fun event =>
    (PublishedDispute.parse event mostro).toOption.map fun dispute =>
      .deliver (dispute.revision idOf (mark event)) now)

/-- A dispute event as the sync of revisions takes it. -/
def NostrEvent.relayEvent (mostro : String) (idOf : String → DisputeId)
    (mark : NostrEvent → Nat × Bool) (event : NostrEvent) : RelayEvent :=
  { id := event.id
    dispute := (PublishedDispute.parse event mostro).toOption.elim
      ⟨0, .unknown, .initiated, 0, 0, false⟩ fun dispute => dispute.revision idOf (mark event) }

section refinement

variable {relay : NostrEvent → RelayEvent} {events : List NostrEvent}

/-- What the sync of the events keeps is what the sync of their revisions keeps. -/
structure Refines (relay : NostrEvent → RelayEvent) (events : List NostrEvent) : Prop where
  id : ∀ event ∈ events, (relay event).id = event.id
  time : ∀ event ∈ events, (relay event).dispute.revisionAt = event.createdAt
  named : ∀ event ∈ events, (tagValue event.tags "d").isSome = true
  same : ∀ a ∈ events, ∀ b ∈ events,
    ((relay a).dispute.disputeId = (relay b).dispute.disputeId ↔
      tagValue a.tags "d" = tagValue b.tags "d")

namespace Refines

/-- The revisions are ranked as their events are. -/
theorem rank_lt (h : Refines relay events) {a b : NostrEvent} (ha : a ∈ events) (hb : b ∈ events) :
    (relay a).rank < (relay b).rank ↔ a.rank < b.rank := by
  rw [RelayEvent.rank, RelayEvent.rank, NostrEvent.rank, NostrEvent.rank, Prod.Lex.lt_iff,
    Prod.Lex.lt_iff]
  simp [h.id a ha, h.id b hb, h.time a ha, h.time b hb]

/-- So they are sorted alike. -/
theorem sorted_le (h : Refines relay events) {a b : NostrEvent} (ha : a ∈ events)
    (hb : b ∈ events) :
    toLex (a.createdAt, a.id) ≤ toLex (b.createdAt, b.id) ↔
      toLex ((relay a).dispute.revisionAt, (relay a).id) ≤
        toLex ((relay b).dispute.revisionAt, (relay b).id) := by
  rw [Prod.Lex.le_iff, Prod.Lex.le_iff]
  simp [h.id a ha, h.id b hb, h.time a ha, h.time b hb]

/-- What is kept is among the events. -/
theorem subset_keepNewestEvent {kept : List NostrEvent} (hkept : kept ⊆ events) {event : NostrEvent}
    (hevent : event ∈ events) : keepNewestEvent kept event ⊆ events := by
  unfold keepNewestEvent
  split
  · exact hkept
  split
  · exact List.append_subset.mpr ⟨hkept, by simpa using hevent⟩
  split
  · intro found hfound
    obtain ⟨row, hrow, rfl⟩ := List.mem_map.mp hfound
    split
    · exact hevent
    · exact hkept hrow
  · exact hkept

/-- One event more. -/
theorem map_keepNewestEvent (h : Refines relay events) {kept : List NostrEvent}
    (hkept : kept ⊆ events) {event : NostrEvent} (hevent : event ∈ events) :
    (keepNewestEvent kept event).map relay = keepNewest (kept.map relay) (relay event) := by
  obtain ⟨id, hid⟩ := Option.isSome_iff_exists.mp (h.named event hevent)
  have hsame : ∀ row ∈ kept,
      ((relay row).dispute.disputeId == (relay event).dispute.disputeId) =
        (tagValue row.tags "d" == some id) := by
    intro row hrow
    rw [Bool.eq_iff_iff, beq_iff_eq, beq_iff_eq, ← hid]
    exact h.same row (hkept hrow) event hevent
  have hfind : (kept.map relay).find? (fun row =>
      row.dispute.disputeId == (relay event).dispute.disputeId) =
        (kept.find? fun row => tagValue row.tags "d" == some id).map relay := by
    rw [List.find?_map]
    congr 1
    exact List.find?_congr fun row hrow => hsame row hrow
  rw [keepNewestEvent, keepNewest, hfind, hid]
  simp only []
  cases hfound : kept.find? fun row => tagValue row.tags "d" == some id with
  | none => simp
  | some older =>
    have hrank := h.rank_lt (hkept (List.mem_of_find?_eq_some hfound)) hevent
    simp only [Option.map_some]
    by_cases hlt : older.rank < event.rank
    · rw [if_pos hlt, if_pos (hrank.mpr hlt), List.map_map, List.map_map]
      apply List.map_congr_left
      intro row hrow
      rw [Function.comp_apply, Function.comp_apply, hsame row hrow]
      split <;> rfl
    · rw [if_neg hlt, if_neg fun hrelay => hlt (hrank.mp hrelay)]

/-- The events kept of each dispute. -/
theorem map_foldl_keepNewestEvent (h : Refines relay events) {rest : List NostrEvent}
    (hrest : rest ⊆ events) {kept : List NostrEvent} (hkept : kept ⊆ events) :
    (rest.foldl keepNewestEvent kept).map relay =
        (rest.map relay).foldl keepNewest (kept.map relay) ∧
      rest.foldl keepNewestEvent kept ⊆ events := by
  induction rest generalizing kept with
  | nil => exact ⟨rfl, hkept⟩
  | cons event rest ih =>
    obtain ⟨hevent, hlater⟩ := List.cons_subset.mp hrest
    rw [List.foldl_cons, List.map_cons, List.foldl_cons, ← h.map_keepNewestEvent hkept hevent]
    exact ih hlater (subset_keepNewestEvent hkept hevent)

/-- **The newest events** stand for the newest revisions. -/
theorem map_newestEvents (h : Refines relay events) :
    (newestEvents events).map relay = newestRevisions (events.map relay) ∧
      newestEvents events ⊆ events := by
  obtain ⟨hkept, hsubset⟩ :=
    h.map_foldl_keepNewestEvent (List.Subset.refl events) (List.nil_subset events)
  rw [List.map_nil] at hkept
  constructor
  · rw [newestEvents, newestRevisions, ← hkept]
    exact List.map_insertionSort _ _ _ _ fun a ha b hb => h.sorted_le (hsubset ha) (hsubset hb)
  · intro event hevent
    exact hsubset ((List.mem_insertionSort _).mp hevent)

end Refines

end refinement

/-- **The sync reads what was published.** On events of the node, in any order and with any copies, the
sync does to the store what the sync of the revisions they were published for does. `idOf` tells the
disputes of these events apart. -/
theorem sync_reads_published {mostro : String} {idOf : String → DisputeId}
    {mark : NostrEvent → Nat × Bool} {events : List NostrEvent}
    (hpublished : ∀ event ∈ events, ∃ dispute : PublishedDispute, dispute.By mostro event)
    (hdistinct : Set.InjOn idOf {id | ∃ event ∈ events, tagValue event.tags "d" = some id})
    (store : Store) (now : Int) :
    store.syncEvents mostro idOf mark events now =
      store.syncBacklog (events.map (NostrEvent.relayEvent mostro idOf mark)) now := by
  have hread : ∀ event ∈ events, ∃ dispute,
      PublishedDispute.parse event mostro = .ok dispute ∧
        tagValue event.tags "d" = some dispute.disputeId ∧
          dispute.revisionAt = event.createdAt ∧
            NostrEvent.relayEvent mostro idOf mark event =
              ⟨event.id, dispute.revision idOf (mark event)⟩ := by
    intro event hevent
    obtain ⟨dispute, hby⟩ := hpublished event hevent
    have hparse := PublishedDispute.parse_of_by hby
    refine ⟨dispute, hparse, (PublishedDispute.parse_eq_ok_iff.mp hparse).2.2.2.1, hby.revised.1, ?_⟩
    rw [NostrEvent.relayEvent, hparse]
    rfl
  have hrefines : Refines (NostrEvent.relayEvent mostro idOf mark) events := by
    refine ⟨fun event hevent => rfl, fun event hevent => ?_, fun event hevent => ?_,
      fun a ha b hb => ?_⟩
    · obtain ⟨dispute, -, -, htime, hrelay⟩ := hread event hevent
      rw [hrelay]
      exact htime
    · obtain ⟨dispute, -, hid, -⟩ := hread event hevent
      rw [hid]
      rfl
    · obtain ⟨dispute, -, hid, -, hrelay⟩ := hread a ha
      obtain ⟨other, -, hother, -, hrelay'⟩ := hread b hb
      rw [hrelay, hrelay', hid, hother, Option.some.injEq]
      exact hdistinct.eq_iff ⟨a, ha, hid⟩ ⟨b, hb, hother⟩
  -- The newest event of each dispute is its newest revision, so both syncs go through one list.
  obtain ⟨hnewest, hsubset⟩ := hrefines.map_newestEvents
  rw [Store.syncEvents, Store.syncBacklog, ← hnewest, List.map_map]
  congr 1
  generalize newestEvents events = newest at hsubset
  induction newest with
  | nil => rfl
  | cons event rest ih =>
    obtain ⟨hevent, hrest⟩ := List.cons_subset.mp hsubset
    obtain ⟨dispute, hparse, -, -, hrelay⟩ := hread event hevent
    rw [List.filterMap_cons, hparse, List.map_cons, ih hrest, Function.comp_apply, hrelay]
    rfl

/-- A dispute's revision, written with a tag of another name before its own. -/
def publishedEvent (id createdAt : Nat) (dispute : PublishedDispute) : NostrEvent :=
  { id := id
    kind := disputeEventKind
    author := "node"
    createdAt := createdAt
    tags := ["y", "mostro"] :: dispute.tags }

/-- What the node publishes of a dispute is read as its revision. -/
theorem publishedEvent_by {id createdAt : Nat} {dispute : PublishedDispute}
    (hnamed : dispute.disputeId ≠ "")
    (hopened : ∀ time ∈ dispute.openedAt, i64Min ≤ time ∧ time ≤ i64Max)
    (hrevised : dispute.revisionAt = createdAt ∧ dispute.revisionAt ≤ i64Max) :
    dispute.By "node" (publishedEvent id createdAt dispute) where
  kind := rfl
  author := rfl
  named := hnamed
  opened := hopened
  revised := hrevised
  written := by
    obtain ⟨name, status, initiator, openedAt, revisionAt⟩ := dispute
    apply List.Perm.of_eq
    cases openedAt <;>
      simp [publishedEvent, PublishedDispute.tags, PublishedDispute.tagNames, Tag.named]

/-- A dispute and its take, and another dispute. -/
def publishedEvents : List NostrEvent :=
  [publishedEvent 7 200 ⟨"a", .inProgress, .buyer, some 90, 200⟩,
    publishedEvent 9 100 ⟨"a", .initiated, .buyer, some 90, 100⟩,
    publishedEvent 8 150 ⟨"bb", .initiated, .seller, none, 150⟩]

/-- The example's backlog, read from its events. -/
theorem sync_reads_published_taken :
    Store.empty.syncEvents "node" String.length (fun event => (event.id, false)) publishedEvents 300 =
      Store.empty.syncBacklog (publishedEvents.map
        (NostrEvent.relayEvent "node" String.length fun event => (event.id, false))) 300 := by
  refine sync_reads_published (fun event hevent => ?_) ?_ Store.empty 300
  · simp only [publishedEvents, List.mem_cons, List.not_mem_nil, or_false] at hevent
    rcases hevent with rfl | rfl | rfl
    · exact ⟨_, publishedEvent_by (by decide) (by decide) (by decide)⟩
    · exact ⟨_, publishedEvent_by (by decide) (by decide) (by decide)⟩
    · exact ⟨_, publishedEvent_by (by decide) (by decide) (by decide)⟩
  · have hids : ∀ event ∈ publishedEvents,
        tagValue event.tags "d" = some "a" ∨ tagValue event.tags "d" = some "bb" := by
      decide +kernel
    rintro id ⟨event, hevent, hid⟩ other ⟨event', hevent', hother⟩ hsame
    rcases hids event hevent with h | h <;> rcases hids event' hevent' with h' | h' <;>
      rw [h, Option.some.injEq] at hid <;> rw [h', Option.some.injEq] at hother <;>
      subst hid <;> subst hother
    · rfl
    · exact absurd hsame (by decide)
    · exact absurd hsame (by decide)
    · rfl

end Serbero
