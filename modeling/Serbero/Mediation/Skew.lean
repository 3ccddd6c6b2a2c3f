import Serbero.Judge.State
import Serbero.Mediation.Plan
import Serbero.Store.Messages

/-! # Who has something new

The turn loop asks it of the judge state, which is built in conversation order; the restart scan,
the timers and the policy's history ask it by arrival. The two answers agree as long as no party's
clock puts its messages on the other side of what Serbero wrote. -/

namespace Serbero

/-- The parties with something new in a built state, in the order the source walks them. -/
def wrote (state : JudgeState) : List Party :=
  Party.both.filter fun party => !(state.latest party).isEmpty

/-- A party wrote when the state has a latest message of its own. -/
theorem mem_wrote {state : JudgeState} {party : Party} :
    party ∈ wrote state ↔ state.latest party ≠ [] := by
  simp [wrote]

/-- By arrival: some message of the party has an id above every message to it. -/
def RepliedLast (messages : List Message) (party : Party) : Prop :=
  ∃ reply ∈ messages, reply.isFrom party = true ∧
    ∀ sent ∈ messages, sent.isTo party = true → sent.id < reply.id

/-- By the conversation's clock: some message of the party was said after every message to it. -/
def SaidLast (messages : List Message) (party : Party) : Prop :=
  ∃ reply ∈ messages, reply.isFrom party = true ∧
    ∀ sent ∈ messages, sent.isTo party = true → sent.saidAt < reply.saidAt

/-- The party's clock runs behind: it replied after everything Serbero wrote to it, and yet some
message to it is dated after all of its own. -/
def Backdated (messages : List Message) (party : Party) : Prop :=
  RepliedLast messages party ∧ ∃ sent ∈ messages, sent.isTo party = true ∧
    ∀ reply ∈ messages, reply.isFrom party = true → reply.saidAt < sent.saidAt

/-- The party's clock runs ahead: Serbero wrote to it after all of its messages, and yet one of
them is dated after everything Serbero wrote to it. -/
def Postdated (messages : List Message) (party : Party) : Prop :=
  SaidLast messages party ∧ ∃ sent ∈ messages, sent.isTo party = true ∧
    ∀ reply ∈ messages, reply.isFrom party = true → reply.id < sent.id

section skew

variable {nip19 : List Char → Bool} {session : Session} {openedBy : Initiator}
  {messages : List Message} {maxChars : Nat} {party : Party}

/-- **What a turn sees.** Over the loaded transcript, a party has latest messages exactly when one
of them was said after everything Serbero wrote to the party. -/
theorem latest_conversation_ne_nil_iff (distinct : (messages.map Message.id).Nodup) :
    (buildState nip19 session openedBy (conversationOrder messages) maxChars).latest party ≠ [] ↔
      SaidLast messages party := by
  have sorted := pairwise_conversationOrder distinct
  rw [latest_ne_nil_iff]
  constructor
  · rintro ⟨before, reply, after, hsplit, hfrom, hafter⟩
    refine ⟨reply, ?_, hfrom, ?_⟩
    · rw [← mem_conversationOrder, hsplit]
      simp
    · intro sent hsent hto
      rw [← mem_conversationOrder, hsplit] at hsent
      rw [hsplit] at sorted
      rcases List.mem_append.mp hsent with h | h
      · exact (List.pairwise_append.mp sorted).2.2 sent h reply (by simp)
      · rcases List.mem_cons.mp h with rfl | h
        · exact absurd hto (by simp [Message.not_isTo_of_isFrom hfrom])
        · exact absurd hto (by simp [hafter sent h])
  · rintro ⟨reply, hmem, hfrom, htop⟩
    rw [← mem_conversationOrder] at hmem
    obtain ⟨before, after, hsplit⟩ := List.append_of_mem hmem
    refine ⟨before, reply, after, hsplit, hfrom, ?_⟩
    intro later hlater
    by_contra hto
    rw [Bool.not_eq_false] at hto
    rw [hsplit] at sorted
    have hlt : reply.saidAt < later.saidAt :=
      List.rel_of_pairwise_cons (List.pairwise_append.mp sorted).2.1 hlater
    have hmem' : later ∈ messages := by
      rw [← mem_conversationOrder, hsplit]
      simp [hlater]
    exact absurd (htop later hmem' hto) (lt_asymm hlt)

/-- If no message of a party stands above all those to it, then one to it stands above all of the
party's, whatever injective key orders the messages. -/
theorem exists_top_sent_of_not_top_reply {κ : Type*} [LinearOrder κ] (key : Message → κ)
    (inj : ∀ a ∈ messages, ∀ b ∈ messages, key a = key b → a = b)
    (wroteOnce : ∃ reply ∈ messages, reply.isFrom party = true)
    (none' : ¬ ∃ reply ∈ messages, reply.isFrom party = true ∧
      ∀ sent ∈ messages, sent.isTo party = true → key sent < key reply) :
    ∃ sent ∈ messages, sent.isTo party = true ∧
      ∀ reply ∈ messages, reply.isFrom party = true → key reply < key sent := by
  obtain ⟨reply, hreply, hfrom⟩ := wroteOnce
  have htop : (LastOf.maxByKey key (messages.filter (·.isFrom party))).isSome := by
    rw [LastOf.maxByKey_isSome]
    exact List.ne_nil_of_mem (List.mem_filter.mpr ⟨hreply, hfrom⟩)
  obtain ⟨top, hmax⟩ := Option.isSome_iff_exists.mp htop
  obtain ⟨htopMem, htopFrom⟩ := List.mem_filter.mp (LastOf.mem_of_maxByKey hmax)
  push Not at none'
  obtain ⟨sent, hsent, hto, hle⟩ := none' top htopMem htopFrom
  refine ⟨sent, hsent, hto, ?_⟩
  intro other hother hotherFrom
  have := LastOf.le_of_maxByKey hmax (List.mem_filter.mpr ⟨hother, hotherFrom⟩)
  refine lt_of_le_of_ne (le_trans this hle) fun heq => ?_
  have := inj other hother sent hsent heq
  subst this
  exact absurd hto (by simp [Message.not_isTo_of_isFrom hotherFrom])

/-- **The two notions of "something new" agree exactly without skew.** For messages with distinct
ids, loaded in conversation order: a party has latest messages just when it replied last by
arrival, if and only if its clock neither backdates nor postdates its messages over Serbero's. -/
theorem latest_iff_repliedLast_iff_no_skew (distinct : (messages.map Message.id).Nodup) :
    ((buildState nip19 session openedBy (conversationOrder messages) maxChars).latest party ≠ [] ↔
        RepliedLast messages party) ↔
      ¬ Backdated messages party ∧ ¬ Postdated messages party := by
  rw [latest_conversation_ne_nil_iff distinct]
  have byTime : ∀ a ∈ messages, ∀ b ∈ messages, a.saidAt = b.saidAt → a = b :=
    fun a ha b hb => saidAt_injective distinct ha hb
  have byId : ∀ a ∈ messages, ∀ b ∈ messages, a.id = b.id → a = b :=
    fun a ha b hb => List.inj_on_of_nodup_map distinct ha hb
  constructor
  · intro agree
    constructor
    · rintro ⟨hreplied, sent, hsent, hto, hbefore⟩
      obtain ⟨reply, hreply, hfrom, hafter⟩ := agree.mpr hreplied
      exact lt_asymm (hbefore reply hreply hfrom) (hafter sent hsent hto)
    · rintro ⟨hsaid, sent, hsent, hto, hbefore⟩
      obtain ⟨reply, hreply, hfrom, hafter⟩ := agree.mp hsaid
      have := hbefore reply hreply hfrom
      have := hafter sent hsent hto
      omega
  · rintro ⟨hback, hpost⟩
    constructor
    · intro hsaid
      by_contra hreplied
      obtain ⟨reply, hreply, hfrom, -⟩ := id hsaid
      exact hpost ⟨hsaid, exists_top_sent_of_not_top_reply Message.id byId
        ⟨reply, hreply, hfrom⟩ hreplied⟩
    · intro hreplied
      by_contra hsaid
      obtain ⟨reply, hreply, hfrom, -⟩ := id hreplied
      exact hback ⟨hreplied, exists_top_sent_of_not_top_reply Message.saidAt byTime
        ⟨reply, hreply, hfrom⟩ hsaid⟩

end skew

/-- Serbero asked the buyer; the buyer replied, with a clock some seconds behind. -/
def backdatedMessages : List Message :=
  [NewMessage.row ⟨0, .outbound, .buyer, some .askBuyerSent, none, "", 0, .serbero 100 "", 100⟩ 1,
    NewMessage.row ⟨0, .inbound, .buyer, none, none, "I paid", 0, .party 0, 90⟩ 2]

/-- The buyer's clock puts its reply before the question, and the two sides differ. -/
theorem latest_iff_repliedLast_iff_no_skew_backdated :
    ((buildState (fun _ => false) (NewSession.row ⟨0, 0, none, none, none, none, 0⟩) .buyer
        (conversationOrder backdatedMessages) 2000).latest .buyer ≠ [] ↔
          RepliedLast backdatedMessages .buyer) ↔
      ¬ Backdated backdatedMessages .buyer ∧ ¬ Postdated backdatedMessages .buyer :=
  latest_iff_repliedLast_iff_no_skew (by decide)

/-- **A party with a slow clock is not heard.** The buyer replied last by arrival, and the state
the turn builds has nothing new of it. -/
theorem not_latest_of_backdated :
    ¬ ∀ (nip19 : List Char → Bool) (session : Session) (openedBy : Initiator)
        (messages : List Message) (maxChars : Nat) (party : Party),
        (messages.map Message.id).Nodup →
        ((buildState nip19 session openedBy (conversationOrder messages) maxChars).latest
            party ≠ [] ↔ RepliedLast messages party) := by
  intro agree
  have hlatest := (agree (fun _ => false) (NewSession.row ⟨0, 0, none, none, none, none, 0⟩) .buyer
    backdatedMessages 2000 .buyer (by decide)).mpr
  have hreplied : RepliedLast backdatedMessages .buyer := by
    unfold RepliedLast
    decide
  exact hlatest hreplied (by decide)

end Serbero
