import Mathlib.Data.List.Sort
import Mathlib.Data.Prod.Lex
import Serbero.Store.Rows

/-! # The order in which a session's messages are loaded

A transcript is read in conversation order: by the inner event's time, then by arrival. The time of
an inbound message is the party's own clock, so conversation order and arrival order may differ. -/

namespace Serbero

/-- Where a message stands in the conversation. -/
def Message.saidAt (message : Message) : Int ×ₗ Int := toLex (message.createdAt, message.id)

/-- The order of a loaded transcript. -/
def Message.saidBefore (a b : Message) : Prop := a.saidAt ≤ b.saidAt

instance : DecidableRel Message.saidBefore := fun a b =>
  inferInstanceAs (Decidable (a.saidAt ≤ b.saidAt))

instance : Std.Total Message.saidBefore := ⟨fun a b => le_total a.saidAt b.saidAt⟩

instance : IsTrans Message Message.saidBefore := ⟨fun _ _ _ h h' => le_trans h h'⟩

/-- Messages in conversation order. -/
def conversationOrder (messages : List Message) : List Message :=
  messages.insertionSort Message.saidBefore

/-- The conversation order holds the same messages. -/
@[simp] theorem mem_conversationOrder (messages : List Message) (message : Message) :
    message ∈ conversationOrder messages ↔ message ∈ messages :=
  List.mem_insertionSort _

/-- The conversation order is a rearrangement. -/
theorem perm_conversationOrder (messages : List Message) :
    (conversationOrder messages).Perm messages :=
  List.perm_insertionSort _ messages

/-- Messages with distinct ids stand at distinct places of the conversation. -/
theorem saidAt_injective {messages : List Message} (distinct : (messages.map Message.id).Nodup)
    {a b : Message} (ha : a ∈ messages) (hb : b ∈ messages) (h : a.saidAt = b.saidAt) : a = b := by
  have hid : a.id = b.id := (Prod.mk.inj (toLex.injective h)).2
  exact List.inj_on_of_nodup_map distinct ha hb hid

/-- Under distinct ids the conversation order is strict. -/
theorem pairwise_conversationOrder {messages : List Message}
    (distinct : (messages.map Message.id).Nodup) :
    (conversationOrder messages).Pairwise fun a b => a.saidAt < b.saidAt := by
  have le : (conversationOrder messages).Pairwise Message.saidBefore :=
    List.pairwise_insertionSort Message.saidBefore messages
  have ne : (conversationOrder messages).Pairwise fun a b => a.id ≠ b.id :=
    List.pairwise_map.mp (((perm_conversationOrder messages).map _).nodup_iff.mpr distinct)
  refine (le.and ne).imp ?_
  intro a b h
  refine lt_of_le_of_ne h.1 fun heq => h.2 ?_
  exact (Prod.mk.inj (toLex.injective heq)).2

/-- Under distinct ids, what is picked of a conversation is the conversation of what is picked. -/
theorem filter_conversationOrder {messages : List Message}
    (distinct : (messages.map Message.id).Nodup) (picked : Message → Bool) :
    (conversationOrder messages).filter picked = conversationOrder (messages.filter picked) := by
  have hpicked : ((messages.filter picked).map Message.id).Nodup :=
    distinct.sublist (List.filter_sublist.map Message.id)
  have hperm : ((conversationOrder messages).filter picked).Perm
      (conversationOrder (messages.filter picked)) :=
    ((perm_conversationOrder messages).filter picked).trans (perm_conversationOrder _).symm
  refine hperm.eq_of_pairwise ?_ ((pairwise_conversationOrder distinct).filter picked)
    (pairwise_conversationOrder hpicked)
  intro a b _ _ hlt hgt
  exact absurd hgt (lt_asymm hlt)

end Serbero
