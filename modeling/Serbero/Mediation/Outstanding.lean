import Serbero.Mediation.Clocks
import Serbero.Mediation.History

/-! # A question that awaits its answer

The policy's history and the timers' clocks each say whether a party owes an answer: the history
by positions in the arrival order, the clocks by stored ids. Both say the same: some question to
the party has an id above every message of the party. -/

namespace Serbero

open LastOf

/-- A question to the party has no later message of the party, by arrival. -/
def Outstanding (messages : List Message) (party : Party) : Prop :=
  ∃ question ∈ messages, question.isQuestionTo party = true ∧
    ∀ reply ∈ messages, reply.isFrom party = true → reply.id < question.id

/-! ## By positions -/

/-- The arrival order holds the same messages. -/
@[simp] theorem mem_arrivalOrder (messages : List Message) (message : Message) :
    message ∈ arrivalOrder messages ↔ message ∈ messages :=
  List.mem_insertionSort _

/-- Under distinct ids the arrival order is strict. -/
theorem pairwise_arrivalOrder {messages : List Message}
    (distinct : (messages.map Message.id).Nodup) :
    (arrivalOrder messages).Pairwise fun a b => a.id < b.id := by
  have le : (arrivalOrder messages).Pairwise fun a b => a.id ≤ b.id :=
    List.pairwise_insertionSort (fun a b : Message => a.id ≤ b.id) messages
  have perm : ((arrivalOrder messages).map Message.id).Nodup :=
    ((List.perm_insertionSort (fun a b : Message => a.id ≤ b.id) messages).map _).nodup_iff.mpr
      distinct
  have ne : (arrivalOrder messages).Pairwise fun a b => a.id ≠ b.id := List.pairwise_map.mp perm
  exact (le.and ne).imp fun h => lt_of_le_of_ne h.1 h.2

/-- **The history's view.** A party's history has a question outstanding exactly when a question
awaits its answer. -/
theorem partyHistory_outstanding {messages : List Message}
    (distinct : (messages.map Message.id).Nodup) (party : Party) :
    (partyHistory messages party).outstanding = true ↔ Outstanding messages party := by
  have sorted := pairwise_arrivalOrder distinct
  have order := fun {i j a b} => lt_position_iff (i := i) (j := j) (a := a) (b := b)
    (fun a _ b _ h h' => by omega) sorted
  simp only [partyHistory, Option.any_eq_true, Prod.exists, lastSome_zipIdx_eq_some_iff]
  constructor
  · rintro ⟨i, template, ⟨i', question, hq, hsome, -⟩, hall⟩
    split at hsome
    · next hto =>
      obtain ⟨template', hfilter, heq⟩ := Option.map_eq_some_iff.mp hsome
      obtain ⟨rfl, rfl⟩ := Prod.mk.inj heq
      refine ⟨question, ?_, (question.isQuestionTo_iff party).mpr ⟨hto, by simp [hfilter]⟩, ?_⟩
      · exact (mem_arrivalOrder _ _).mp (List.mem_of_getElem? hq)
      · intro reply hreply hfrom
        obtain ⟨j, hj⟩ := List.mem_iff_getElem?.mp ((mem_arrivalOrder _ _).mpr hreply)
        -- The party's last message is at `j` or later, and before the question.
        have some' : (lastSome (fun entry : Message × Nat =>
            if entry.1.isFrom party then some entry.2 else none)
              (arrivalOrder messages).zipIdx).isSome := by
          rw [lastSome_isSome]
          exact ⟨(reply, j), List.mem_zipIdx_iff_getElem?.mpr hj, by simp [hfrom]⟩
        obtain ⟨last, hlast⟩ := Option.isSome_iff_exists.mp some'
        rw [hlast, Option.all_some, decide_eq_true_eq] at hall
        obtain ⟨k, reply', hk, hf, top⟩ := (lastSome_zipIdx_eq_some_iff _ _ _).mp hlast
        have hle := top j reply hj (by simp [hfrom])
        split at hf
        · rw [Option.some.injEq] at hf
          exact (order hj hq).mp (by omega)
        · exact absurd hf (by simp)
    · exact absurd hsome (by simp)
  · rintro ⟨question, hmem, hquestion, hreplies⟩
    obtain ⟨hto, hfilter⟩ := (question.isQuestionTo_iff party).mp hquestion
    obtain ⟨i, hi⟩ := List.mem_iff_getElem?.mp ((mem_arrivalOrder _ _).mpr hmem)
    have some' : (lastSome (fun entry : Message × Nat =>
        if entry.1.isTo party then
          (entry.1.templateId.filter Template.isQuestion).map fun template => (entry.2, template)
        else none) (arrivalOrder messages).zipIdx).isSome := by
      rw [lastSome_isSome]
      exact ⟨(question, i), List.mem_zipIdx_iff_getElem?.mpr hi, by simp [hto, hfilter]⟩
    obtain ⟨⟨n, template⟩, hlast⟩ := Option.isSome_iff_exists.mp some'
    obtain ⟨k, last, hk, hf, top⟩ := (lastSome_zipIdx_eq_some_iff _ _ _).mp hlast
    have hik := top i question hi (by simp [hto, hfilter])
    refine ⟨n, template, ⟨k, last, hk, hf, top⟩, ?_⟩
    have hn : n = k := by
      split at hf
      · obtain ⟨_, _, heq⟩ := Option.map_eq_some_iff.mp hf
        exact (Prod.mk.inj heq).1.symm
      · exact absurd hf (by simp)
    cases hreply : lastSome (fun entry : Message × Nat =>
        if entry.1.isFrom party then some entry.2 else none) (arrivalOrder messages).zipIdx with
    | none => rfl
    | some r =>
      rw [Option.all_some, decide_eq_true_eq]
      obtain ⟨j, reply, hj, hfrom, -⟩ := (lastSome_zipIdx_eq_some_iff _ _ _).mp hreply
      split at hfrom
      · next hfrom' =>
        rw [Option.some.injEq] at hfrom
        have := hreplies reply ((mem_arrivalOrder _ _).mp (List.mem_of_getElem? hj)) hfrom'
        have := (order hj hi).mpr this
        omega
      · exact absurd hfrom (by simp)

/-! ## By ids -/

/-- Under distinct ids, the newest message Serbero sent the party from a template of a kind. -/
theorem lastSent_eq_some_iff {messages : List Message}
    (distinct : (messages.map Message.id).Nodup) (party : Party) (pick : Template → Bool)
    (sent : Message) :
    lastSent messages party pick = some sent ↔
      (sent ∈ messages ∧ sent.isTo party = true ∧ sent.templateId.any pick = true) ∧
        ∀ message ∈ messages, message.isTo party = true → message.templateId.any pick = true →
          message.id ≤ sent.id := by
  have inj : ∀ a ∈ messages.filter fun message =>
      message.isTo party && message.templateId.any pick,
      ∀ b ∈ messages.filter fun message => message.isTo party && message.templateId.any pick,
      a.id = b.id → a = b := by
    intro a ha b hb h
    exact List.inj_on_of_nodup_map distinct (List.mem_of_mem_filter ha)
      (List.mem_of_mem_filter hb) h
  rw [lastSent, maxByKey_eq_some_iff inj]
  simp only [List.mem_filter, Bool.and_eq_true, and_imp]

/-- **The timers' view.** A party's clock awaits a reply exactly when a question awaits its
answer. -/
theorem partyClock_awaiting {messages : List Message}
    (distinct : (messages.map Message.id).Nodup) (party : Party) :
    (partyClock messages party).awaiting = true ↔ Outstanding messages party := by
  cases hq : lastSent messages party Template.isQuestion with
  -- No question was sent: the clock does not run, and nothing is outstanding.
  | none =>
    have none' : ∀ message ∈ messages, message.isQuestionTo party = false := by
      intro message hm
      have h := List.filter_eq_nil_iff.mp (maxByKey_eq_none.mp hq) message hm
      simpa [Message.isQuestionTo_eq] using h
    constructor
    · intro h
      simp [partyClock, PartyClock.awaiting, hq] at h
    · rintro ⟨question, hmem, hquestion, -⟩
      exact absurd hquestion (by simp [none' question hmem])
  | some question =>
    obtain ⟨⟨hmem, hto, htemplate⟩, top⟩ := (lastSent_eq_some_iff distinct _ _ _).mp hq
    -- The newest question is answered by any reply with a larger id.
    have awaiting : (partyClock messages party).awaiting = true ↔
        ∀ reply ∈ messages, reply.isFrom party = true → reply.id ≤ question.id := by
      simp only [partyClock, PartyClock.awaiting, hq, Option.map_some, Option.any_some]
      split
      · next h =>
        simp only [List.any_eq_true, Bool.and_eq_true, decide_eq_true_eq] at h
        obtain ⟨reply, hreply, hfrom, hlt⟩ := h
        simp only [Option.any_some, ge_iff_le, le_refl, decide_true, Bool.not_true,
          Bool.false_eq_true, false_iff]
        intro hall
        have := hall reply hreply hfrom
        omega
      · next h =>
        simp only [List.any_eq_true, Bool.and_eq_true, decide_eq_true_eq] at h
        push Not at h
        simp only [Option.any_none, Bool.not_false, true_iff]
        intro reply hreply hfrom
        have := h reply hreply hfrom
        omega
    rw [awaiting]
    constructor
    · intro h
      refine ⟨question, hmem, by rw [Message.isQuestionTo_eq, hto, htemplate]; rfl, ?_⟩
      intro reply hreply hfrom
      -- Two rows of one id are one row, and a row is not both a question and its reply.
      refine lt_of_le_of_ne (h reply hreply hfrom) fun heq => ?_
      have := List.inj_on_of_nodup_map distinct hreply hmem heq
      rw [this] at hfrom
      exact absurd hto (by simp [Message.not_isTo_of_isFrom hfrom])
    · rintro ⟨asked, hasked, hquestion, hall⟩ reply hreply hfrom
      rw [Message.isQuestionTo_eq, Bool.and_eq_true] at hquestion
      have := top asked hasked hquestion.1 hquestion.2
      have := hall reply hreply hfrom
      omega

/-! ## Appending messages that ask nothing -/

/-- Rows that neither ask the party nor come from it leave its question as it is. -/
theorem outstanding_append {messages rows after : List Message} {party : Party}
    (perm : after.Perm (messages ++ rows))
    (silent : ∀ row ∈ rows, row.isFrom party = false ∧ row.isQuestionTo party = false) :
    Outstanding after party ↔ Outstanding messages party := by
  have mem : ∀ message, message ∈ after ↔ message ∈ messages ∨ message ∈ rows := by
    intro message
    rw [perm.mem_iff, List.mem_append]
  constructor
  · rintro ⟨question, hmem, hquestion, hall⟩
    rcases (mem question).mp hmem with h | h
    · exact ⟨question, h, hquestion, fun reply hr => hall reply ((mem reply).mpr (Or.inl hr))⟩
    · exact absurd hquestion (by simp [(silent question h).2])
  · rintro ⟨question, hmem, hquestion, hall⟩
    refine ⟨question, (mem question).mpr (Or.inl hmem), hquestion, ?_⟩
    intro reply hr hfrom
    rcases (mem reply).mp hr with h | h
    · exact hall reply h hfrom
    · exact absurd hfrom (by simp [(silent reply h).1])

/-- Rows that ask nothing leave the hold as it is. -/
theorem Hold.current_append {messages rows after : List Message} (sessionId : SessionId)
    (history : List Event) (perm : after.Perm (messages ++ rows))
    (silent : ∀ row ∈ rows, ∀ party, row.isQuestionTo party = false) :
    Hold.current sessionId history after = Hold.current sessionId history messages := by
  have asked : ∀ cutoff, askedSince after cutoff = askedSince messages cutoff := by
    intro cutoff
    have none' : askedSince rows cutoff = false := by
      rw [askedSince, List.any_eq_false]
      intro row hrow h
      simp only [Bool.and_eq_true, decide_eq_true_eq] at h
      have := silent row hrow row.party
      simp [Message.isQuestionTo, h.1.1, h.2] at this
    rw [askedSince, perm.any_eq, List.any_append, ← askedSince, ← askedSince, none',
      Bool.or_false]
  simp only [Hold.current, asked]

end Serbero
