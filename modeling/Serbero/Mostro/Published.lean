import Serbero.Lib.Decimal
import Serbero.Runtime.World

/-! # What the node publishes

Three kinds of events are read by their tags: the node's own info, an order, and a dispute. A tag
counts by its name, the first of a name counts, and tags of other names are passed over. -/

namespace Serbero

/-- A name, its value, and what else the tag holds. -/
abbrev Tag := List String

/-- An event as a relay stores it. Ids are compared as numbers. -/
structure NostrEvent where
  id : Nat
  kind : Nat
  author : String
  createdAt : Nat
  tags : List Tag
  deriving DecidableEq, Repr

/-- The value of a tag of this name. -/
def Tag.valueOf (name : String) : Tag → Option String
  | key :: value :: _ => if key = name then some value else none
  | _ => none

/-- The first value of a name. -/
def tagValue (tags : List Tag) (name : String) : Option String := tags.findSome? (Tag.valueOf name)

/-- Why an event is not read. -/
inductive InvalidEvent
  | difficulty (name value : String)
  | kind (got : Nat)
  | author
  | notDispute
  | missing (name : String)
  | unknownStatus (text : String)
  | unknownInitiator (text : String)
  | publishedAt (text : String)
  deriving DecidableEq, Repr

/-! ## The node -/

/-- What Serbero needs to know about the node before talking to it. -/
structure NodeInfo where
  /-- Missing from a node that predates it. -/
  protocolVersion : Option String
  /-- Proof-of-work difficulty for ordinary events. -/
  pow : UInt8
  powFirstContact : Option UInt8
  deriving DecidableEq, Repr

namespace NodeInfo

/-- Serbero speaks only Mostro protocol v2. -/
def speaksV2 (info : NodeInfo) : Bool := info.protocolVersion == some "2"

/-- The difficulty of Serbero's messages to the node: it may count as a first contact. -/
def powForSerbero (info : NodeInfo) : UInt8 := max (info.powFirstContact.getD 0) info.pow

/-- A difficulty tag, if there is one. -/
def difficulty (tags : List Tag) (name : String) : Except InvalidEvent (Option UInt8) :=
  match tagValue tags name with
  | none => .ok none
  | some value =>
    match Decimal.parseNat 256 value.toList with
    | none => .error (.difficulty name value)
    | some n => .ok (some (UInt8.ofNat n))

/-- Reads the tags Serbero uses of the node's info event. -/
def fromEvent (event : NostrEvent) : Except InvalidEvent NodeInfo :=
  match difficulty event.tags "pow" with
  | .error why => .error why
  | .ok pow =>
    match difficulty event.tags "pow_first_contact" with
    | .error why => .error why
    | .ok firstContact =>
      .ok ⟨tagValue event.tags "protocol_version", pow.getD 0, firstContact⟩

end NodeInfo

/-! ## Orders -/

namespace OrderEvent

/-- The facts of an event that breaks the protocol. -/
def unknown : OrderEvent := ⟨none, none⟩

/-- Both tags, or neither: an event that lacks one breaks the protocol. -/
def fromEvent (event : NostrEvent) : OrderEvent :=
  let fiatCode := (tagValue event.tags "f").filter fun code => code ≠ ""
  let publishedAt := (tagValue event.tags "published_at").bind fun text =>
    Decimal.parseInt i64Min i64Max text.toList
  match fiatCode, publishedAt with
  | some code, some time => ⟨some code, some time⟩
  | _, _ => unknown

end OrderEvent

/-! ## Disputes -/

/-- A status as the node writes it. -/
def DisputeStatus.name : DisputeStatus → String
  | .initiated => "initiated"
  | .inProgress => "in-progress"
  | .settled => "settled"
  | .sellerRefunded => "seller-refunded"
  | .released => "released"
  | .cooperativelyCanceled => "cooperatively-canceled"

def DisputeStatus.all : List DisputeStatus :=
  [.initiated, .inProgress, .settled, .sellerRefunded, .released, .cooperativelyCanceled]

/-- The status of a name. -/
def DisputeStatus.ofName (text : String) : Option DisputeStatus :=
  DisputeStatus.all.find? fun status => status.name == text

/-- An initiator as the node writes it. -/
def Initiator.name : Initiator → String
  | .buyer => "buyer"
  | .seller => "seller"
  | .unknown => "unknown"

/-- The initiator of a name. -/
def Initiator.ofName (text : String) : Option Initiator :=
  [Initiator.buyer, .seller, .unknown].find? fun initiator => initiator.name == text

/-- One revision of a dispute, as it is read. -/
structure PublishedDispute where
  disputeId : String
  status : DisputeStatus
  initiator : Initiator
  /-- Missing from a node that breaks the protocol. -/
  openedAt : Option Int
  revisionAt : Int
  deriving DecidableEq, Repr

/-- An unsigned time, cast to a signed one. -/
def castTime (time : Nat) : Int := if (time : Int) ≤ i64Max then time else time - 18446744073709551616

def disputeEventKind : Nat := 38386

namespace PublishedDispute

/-- The opening time, if its tag is there. -/
def openingTime (tags : List Tag) : Except InvalidEvent (Option Int) :=
  match tagValue tags "published_at" with
  | none => .ok none
  | some text =>
    match Decimal.parseInt i64Min i64Max text.toList with
    | none => .error (.publishedAt text)
    | some time => .ok (some time)

/-- Reads a dispute event of the node. -/
def parse (event : NostrEvent) (mostro : String) : Except InvalidEvent PublishedDispute :=
  if event.kind ≠ disputeEventKind then .error (.kind event.kind)
  else if event.author ≠ mostro then .error .author
  else if tagValue event.tags "z" ≠ some "dispute" then .error .notDispute
  else
    match (tagValue event.tags "d").filter fun id => id ≠ "" with
    | none => .error (.missing "d")
    | some id =>
      match tagValue event.tags "s" with
      | none => .error (.missing "s")
      | some statusText =>
        match DisputeStatus.ofName statusText with
        | none => .error (.unknownStatus statusText)
        | some status =>
          match tagValue event.tags "initiator" with
          | none => .error (.missing "initiator")
          | some initiatorText =>
            match Initiator.ofName initiatorText with
            | none => .error (.unknownInitiator initiatorText)
            | some initiator =>
              match openingTime event.tags with
              | .error why => .error why
              | .ok openedAt => .ok ⟨id, status, initiator, openedAt, castTime event.createdAt⟩

end PublishedDispute

/-! ## Publishing

How a node writes what it publishes: each tag once, in any order, among any tags of other names, with
further values behind the first or without. -/

/-- Whether a tag has one of these names. -/
def Tag.named (names : List String) (tag : Tag) : Bool := tag.head?.any names.contains

/-- The tags of these names are the ones written, in any order, each with whatever is behind its
value. -/
def Publishes (names : List String) (written tags : List Tag) : Prop :=
  ((tags.filter (Tag.named names)).map (List.take 2)).Perm written

instance (names : List String) (written tags : List Tag) : Decidable (Publishes names written tags) :=
  inferInstanceAs (Decidable (List.Perm _ _))

def NodeInfo.tagNames : List String := ["protocol_version", "pow", "pow_first_contact"]

/-- A node's info as tags. -/
def NodeInfo.tags (info : NodeInfo) : List Tag :=
  (info.protocolVersion.map fun version => ["protocol_version", version]).toList ++
    [["pow", info.pow.toNat.repr]] ++
    (info.powFirstContact.map fun pow => ["pow_first_contact", pow.toNat.repr]).toList

def OrderEvent.tagNames : List String := ["f", "published_at"]

/-- An order's currency and time as tags. -/
def OrderEvent.tags (code : String) (time : Int) : List Tag :=
  [["f", code], ["published_at", toString time]]

def PublishedDispute.tagNames : List String := ["d", "s", "initiator", "published_at", "z"]

/-- A dispute's revision as tags. -/
def PublishedDispute.tags (dispute : PublishedDispute) : List Tag :=
  [["d", dispute.disputeId], ["s", dispute.status.name], ["initiator", dispute.initiator.name]] ++
    (dispute.openedAt.map fun time => ["published_at", toString time]).toList ++
    [["z", "dispute"]]

/-- A tag with a value of this name has the name. -/
theorem Tag.head?_of_valueOf {name value : String} {tag : Tag} (h : tag.valueOf name = some value) :
    tag.head? = some name := by
  cases tag with
  | nil => cases h
  | cons key rest =>
    cases rest with
    | nil => cases h
    | cons found rest =>
      simp only [valueOf] at h
      split at h
      · next hname => rw [hname, List.head?_cons]
      · cases h

/-- Tags of other names do not count. -/
theorem tagValue_filter {names : List String} {name : String} (hname : name ∈ names)
    (tags : List Tag) : tagValue (tags.filter (Tag.named names)) name = tagValue tags name := by
  induction tags with
  | nil => rfl
  | cons tag rest ih =>
    have hrest : tagValue (tag :: rest) name = (tag.valueOf name).or (tagValue rest name) := by
      rw [tagValue, List.findSome?_cons]
      cases tag.valueOf name <;> rfl
    rw [hrest]
    by_cases hnamed : tag.named names = true
    · rw [List.filter_cons_of_pos hnamed, tagValue, List.findSome?_cons, ← ih]
      cases tag.valueOf name <;> rfl
    · rw [List.filter_cons_of_neg hnamed, ih]
      cases hvalue : tag.valueOf name with
      | none => rfl
      | some value =>
        rw [Tag.named, Tag.head?_of_valueOf hvalue] at hnamed
        exact absurd (by simpa using hname) hnamed

/-- Where no two tags have one name, their order does not count. -/
theorem tagValue_perm {tags other : List Tag} (hperm : tags.Perm other)
    (hdistinct : (other.map List.head?).Nodup) (name : String) :
    tagValue tags name = tagValue other name := by
  -- The tags with a value of the name are the same, and there is at most one.
  have hvalues : ∀ entries : List Tag,
      tagValue entries name = (entries.filterMap (Tag.valueOf name)).head? := by
    intro entries
    rw [tagValue, List.head?_filterMap]
  have hlength : (other.filterMap (Tag.valueOf name)).length ≤ 1 := by
    have hcount : (other.map List.head?).count (some name) ≤ 1 :=
      List.nodup_iff_count_le_one.mp hdistinct _
    refine le_trans ?_ hcount
    clear hperm hdistinct hcount
    induction other with
    | nil => simp
    | cons tag rest ih =>
      rw [List.map_cons, List.count_cons]
      cases hvalue : tag.valueOf name with
      | none =>
        rw [List.filterMap_cons_none hvalue]
        omega
      | some value =>
        rw [List.filterMap_cons_some hvalue, Tag.head?_of_valueOf hvalue, beq_self_eq_true,
          if_pos rfl, List.length_cons]
        omega
  rw [hvalues, hvalues]
  have hsame := hperm.filterMap (Tag.valueOf name)
  cases hfound : other.filterMap (Tag.valueOf name) with
  | nil =>
    rw [hfound] at hsame
    rw [hsame.eq_nil]
  | cons value rest =>
    rw [hfound] at hsame hlength
    have hrest : rest = [] := List.length_eq_zero_iff.mp (by simpa using hlength)
    rw [hrest] at hsame ⊢
    rw [List.perm_singleton.mp hsame]

/-- What is behind a tag's value does not count. -/
theorem tagValue_map_take (tags : List Tag) (name : String) :
    tagValue (tags.map (List.take 2)) name = tagValue tags name := by
  have hvalue : ∀ tag : Tag, Tag.valueOf name (tag.take 2) = tag.valueOf name := by
    intro tag
    rcases tag with _ | ⟨key, _ | ⟨value, rest⟩⟩ <;> rfl
  rw [tagValue, tagValue, List.findSome?_map]
  congr 1
  funext tag
  exact hvalue tag

/-- What a published tag is read as. -/
theorem tagValue_of_publishes {names : List String} {written tags : List Tag}
    (h : Publishes names written tags) (hdistinct : (written.map List.head?).Nodup) {name : String}
    (hname : name ∈ names) : tagValue tags name = tagValue written name := by
  rw [← tagValue_filter hname, ← tagValue_map_take, tagValue_perm h hdistinct]

/-- A difficulty is read back. -/
theorem NodeInfo.difficulty_eq {tags : List Tag} {name : String} {pow : Option UInt8}
    (h : tagValue tags name = pow.map fun pow => pow.toNat.repr) :
    difficulty tags name = .ok pow := by
  rw [difficulty, h]
  cases pow with
  | none => rfl
  | some pow =>
    simp only [Option.map_some]
    rw [Decimal.parseNat_repr pow.toNat_lt]
    simp only [UInt8.ofNat_toNat]

/-- Reading a status name gives the status back. -/
theorem DisputeStatus.ofName_name (status : DisputeStatus) :
    DisputeStatus.ofName status.name = some status := by
  cases status <;> decide +kernel

/-- Only its name is read as a status. -/
theorem DisputeStatus.name_of_ofName {text : String} {status : DisputeStatus}
    (h : DisputeStatus.ofName text = some status) : status.name = text := by
  unfold DisputeStatus.ofName at h
  have hfound := List.find?_some h
  exact beq_iff_eq.mp hfound

/-- Reading an initiator's name gives it back. -/
theorem Initiator.ofName_name (initiator : Initiator) :
    Initiator.ofName initiator.name = some initiator := by
  cases initiator <;> decide +kernel

/-- Only its name is read as an initiator. -/
theorem Initiator.name_of_ofName {text : String} {initiator : Initiator}
    (h : Initiator.ofName text = some initiator) : initiator.name = text := by
  unfold Initiator.ofName at h
  have hfound := List.find?_some h
  exact beq_iff_eq.mp hfound

/-- The node's info is read back. -/
theorem NodeInfo.fromEvent_of_publishes {event : NostrEvent} {info : NodeInfo}
    (h : Publishes tagNames info.tags event.tags) : fromEvent event = .ok info := by
  obtain ⟨version, pow, firstContact⟩ := info
  have hdistinct : (NodeInfo.tags ⟨version, pow, firstContact⟩ |>.map List.head?).Nodup := by
    cases version <;> cases firstContact <;> simp [NodeInfo.tags]
  have hread : ∀ name ∈ tagNames, tagValue event.tags name = tagValue
      (NodeInfo.tags ⟨version, pow, firstContact⟩) name :=
    fun name hname => tagValue_of_publishes h hdistinct hname
  have hversion : tagValue event.tags "protocol_version" = version := by
    rw [hread _ (by simp [tagNames])]
    cases version <;> cases firstContact <;> simp [NodeInfo.tags, tagValue, Tag.valueOf]
  have hpow : tagValue event.tags "pow" = some pow.toNat.repr := by
    rw [hread _ (by simp [tagNames])]
    cases version <;> cases firstContact <;> simp [NodeInfo.tags, tagValue, Tag.valueOf]
  have hfirst : tagValue event.tags "pow_first_contact" =
      firstContact.map fun pow => pow.toNat.repr := by
    rw [hread _ (by simp [tagNames])]
    cases version <;> cases firstContact <;> simp [NodeInfo.tags, tagValue, Tag.valueOf]
  have hdifficulty : difficulty event.tags "pow" = .ok (some pow) := difficulty_eq hpow
  rw [fromEvent, hdifficulty, difficulty_eq hfirst, hversion]
  rfl

/-- An order is read back. -/
theorem OrderEvent.fromEvent_of_publishes {event : NostrEvent} {code : String} {time : Int}
    (hcode : code ≠ "") (hlow : i64Min ≤ time) (hhigh : time ≤ i64Max)
    (h : Publishes tagNames (tags code time) event.tags) :
    fromEvent event = ⟨some code, some time⟩ := by
  have hdistinct : ((tags code time).map List.head?).Nodup := by simp [tags]
  have hf : tagValue event.tags "f" = some code := by
    rw [tagValue_of_publishes h hdistinct (by simp [tagNames])]
    simp [tags, tagValue, Tag.valueOf]
  have hat : tagValue event.tags "published_at" = some (toString time) := by
    rw [tagValue_of_publishes h hdistinct (by simp [tagNames])]
    simp [tags, tagValue, Tag.valueOf]
  have hfilter : (some code).filter (fun code => code ≠ "") = some code := by
    rw [Option.filter_some, if_pos (decide_eq_true hcode)]
  have htime : ((some (toString time)).bind fun text =>
      Decimal.parseInt i64Min i64Max text.toList) = some time :=
    Decimal.parseInt_toString hlow hhigh
  simp only [fromEvent, hf, hat, hfilter, htime]

/-- **What is read as a dispute's revision**: an event of the node with every tag it needs. -/
theorem PublishedDispute.parse_eq_ok_iff {event : NostrEvent} {dispute : PublishedDispute}
    {mostro : String} :
    parse event mostro = .ok dispute ↔
      event.kind = disputeEventKind ∧ event.author = mostro ∧
      tagValue event.tags "z" = some "dispute" ∧
      tagValue event.tags "d" = some dispute.disputeId ∧ dispute.disputeId ≠ "" ∧
      tagValue event.tags "s" = some dispute.status.name ∧
      tagValue event.tags "initiator" = some dispute.initiator.name ∧
      openingTime event.tags = .ok dispute.openedAt ∧
      dispute.revisionAt = castTime event.createdAt := by
  constructor
  · intro h
    -- Each `split` is one check of the parser, in the order of the source.
    unfold parse at h
    split at h
    · cases h
    next hkind =>
    split at h
    · cases h
    next hauthor =>
    split at h
    · cases h
    next hz =>
    split at h
    · cases h
    next id hid =>
    split at h
    · cases h
    next statusText hs =>
    split at h
    · cases h
    next status hstatus =>
    split at h
    · cases h
    next initiatorText hi =>
    split at h
    · cases h
    next initiator hinitiator =>
    split at h
    · cases h
    next openedAt hopened =>
    cases h
    obtain ⟨hd, hnonempty⟩ := Option.filter_eq_some_iff.mp hid
    rw [DisputeStatus.name_of_ofName hstatus, Initiator.name_of_ofName hinitiator]
    exact ⟨not_not.mp hkind, not_not.mp hauthor, not_not.mp hz, hd, of_decide_eq_true hnonempty, hs,
      hi, hopened, rfl⟩
  · rintro ⟨hkind, hauthor, hz, hd, hid, hs, hi, hopened, htime⟩
    rw [parse, if_neg (not_not.mpr hkind), if_neg (not_not.mpr hauthor), if_neg (not_not.mpr hz),
      hd, Option.filter_some, if_pos (decide_eq_true hid), hs, hi]
    simp only [DisputeStatus.ofName_name, Initiator.ofName_name, hopened, ← htime]

/-- The node published the event for a revision of a dispute. -/
structure PublishedDispute.By (dispute : PublishedDispute) (mostro : String) (event : NostrEvent) :
    Prop where
  kind : event.kind = disputeEventKind
  author : event.author = mostro
  named : dispute.disputeId ≠ ""
  opened : ∀ time ∈ dispute.openedAt, i64Min ≤ time ∧ time ≤ i64Max
  revised : dispute.revisionAt = event.createdAt ∧ dispute.revisionAt ≤ i64Max
  written : Publishes tagNames dispute.tags event.tags

/-- A dispute's revision is read back. -/
theorem PublishedDispute.parse_of_by {event : NostrEvent} {dispute : PublishedDispute}
    {mostro : String} (h : dispute.By mostro event) : parse event mostro = .ok dispute := by
  obtain ⟨id, status, initiator, openedAt, revisionAt⟩ := dispute
  have hdistinct : (PublishedDispute.tags ⟨id, status, initiator, openedAt, revisionAt⟩ |>.map
      List.head?).Nodup := by
    cases openedAt <;> simp [PublishedDispute.tags]
  have hread : ∀ name ∈ tagNames, tagValue event.tags name = tagValue
      (PublishedDispute.tags ⟨id, status, initiator, openedAt, revisionAt⟩) name :=
    fun name hname => tagValue_of_publishes h.written hdistinct hname
  rw [parse_eq_ok_iff]
  refine ⟨h.kind, h.author, ?_, ?_, h.named, ?_, ?_, ?_, ?_⟩
  · rw [hread _ (by simp [tagNames])]
    cases openedAt <;> simp [PublishedDispute.tags, tagValue, Tag.valueOf]
  · rw [hread _ (by simp [tagNames])]
    simp [PublishedDispute.tags, tagValue, Tag.valueOf]
  · rw [hread _ (by simp [tagNames])]
    simp [PublishedDispute.tags, tagValue, Tag.valueOf]
  · rw [hread _ (by simp [tagNames])]
    simp [PublishedDispute.tags, tagValue, Tag.valueOf]
  · have htag : tagValue event.tags "published_at" = openedAt.map fun time => toString time := by
      rw [hread _ (by simp [tagNames])]
      cases openedAt <;> simp [PublishedDispute.tags, tagValue, Tag.valueOf]
    rw [openingTime, htag]
    cases openedAt with
    | none => rfl
    | some time =>
      obtain ⟨hlow, hhigh⟩ := h.opened time rfl
      simp only [Option.map_some]
      rw [Decimal.parseInt_toString hlow hhigh]
  · obtain ⟨htime, hle⟩ := h.revised
    rw [castTime, if_pos (htime ▸ hle)]
    exact htime

/-- **What the node publishes is read back**, with its tags in any order among any of other names and
with whatever is behind their values: its own info, an order's currency and time, and a dispute's
revision. -/
theorem published_read_back (mostro : String) :
    (∀ (info : NodeInfo) (event : NostrEvent),
      Publishes NodeInfo.tagNames info.tags event.tags → NodeInfo.fromEvent event = .ok info) ∧
    (∀ (code : String) (time : Int) (event : NostrEvent),
      code ≠ "" → i64Min ≤ time → time ≤ i64Max →
        Publishes OrderEvent.tagNames (OrderEvent.tags code time) event.tags →
          OrderEvent.fromEvent event = ⟨some code, some time⟩) ∧
    ∀ (dispute : PublishedDispute) (event : NostrEvent), dispute.By mostro event →
      PublishedDispute.parse event mostro = .ok dispute :=
  ⟨fun _ _ h => NodeInfo.fromEvent_of_publishes h,
    fun _ _ _ hcode hlow hhigh h => OrderEvent.fromEvent_of_publishes hcode hlow hhigh h,
    fun _ _ h => PublishedDispute.parse_of_by h⟩

/-- A dispute with a tag of another name before its tags, which come in another order. -/
example : PublishedDispute.parse
    { id := 1
      kind := 38386
      author := "node"
      createdAt := 1700
      tags := [["y", "mostro", "My Mostro"], ["z", "dispute"], ["initiator", "seller"],
        ["s", "in-progress", "since", "1650"], ["published_at", "1600"], ["d", "dispute-1"]] }
      "node" =
    .ok ⟨"dispute-1", .inProgress, .seller, some 1600, 1700⟩ := by
  decide +kernel

end Serbero
