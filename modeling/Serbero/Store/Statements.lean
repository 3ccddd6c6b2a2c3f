import Serbero.Store.Growth

/-! # The statements of the store

Every section under the store's lock is a sequence of single statements. What no statement takes away
is there in every later store: rows stay where they are, the logs only get longer, and a row of a
session or a dispute only moves forward. -/

namespace Serbero

open Relation

/-- How a statement may change a session's row: what the take told stays, and rounds are only added,
each to a party, and to the session at most as often. -/
structure Session.Advances (before after : Session) : Prop where
  terms : after.terms = before.terms
  openedAt : after.openedAt = before.openedAt
  buyerRounds : before.buyerRounds ≤ after.buyerRounds
  sellerRounds : before.sellerRounds ≤ after.sellerRounds
  rounds : before.rounds ≤ after.rounds
  shared : after.rounds + before.buyerRounds + before.sellerRounds ≤
    before.rounds + after.buyerRounds + after.sellerRounds

/-- How a statement may change a dispute's row: it stays the same dispute, and no older revision
replaces a newer one. -/
structure Dispute.Advances (before after : Dispute) : Prop where
  origin : after.origin = before.origin
  firstSeenAt : after.firstSeenAt = before.firstSeenAt
  statusAt : before.statusAt ≤ after.statusAt

namespace Session.Advances

variable {a b c : Session}

/-- A row advances to itself. -/
theorem refl (session : Session) : session.Advances session :=
  ⟨rfl, rfl, le_rfl, le_rfl, le_rfl, le_rfl⟩

/-- One advance after another. -/
theorem trans (h : a.Advances b) (h' : b.Advances c) : a.Advances c where
  terms := h'.terms.trans h.terms
  openedAt := h'.openedAt.trans h.openedAt
  buyerRounds := h.buyerRounds.trans h'.buyerRounds
  sellerRounds := h.sellerRounds.trans h'.sellerRounds
  rounds := h.rounds.trans h'.rounds
  shared := by
    have hfirst := h.shared
    have hsecond := h'.shared
    omega

/-- A change that leaves the rounds and the terms alone. -/
theorem of_eq (hterms : b.terms = a.terms) (hopened : b.openedAt = a.openedAt)
    (hbuyer : b.buyerRounds = a.buyerRounds) (hseller : b.sellerRounds = a.sellerRounds)
    (hrounds : b.rounds = a.rounds) : a.Advances b := by
  constructor <;> first | assumption | omega

end Session.Advances

namespace Dispute.Advances

variable {a b c : Dispute}

/-- A dispute's row advances to itself. -/
theorem refl (dispute : Dispute) : dispute.Advances dispute := ⟨rfl, rfl, le_rfl⟩

/-- One advance of it after another. -/
theorem trans (h : a.Advances b) (h' : b.Advances c) : a.Advances c :=
  ⟨h'.origin.trans h.origin, h'.firstSeenAt.trans h.firstSeenAt, h.statusAt.trans h'.statusAt⟩

end Dispute.Advances

/-- One statement. -/
inductive Statement : Store → Store → Prop
  | event (store : Store) (new : NewEvent) : Statement store (store.append new)
  | evaluation (store : Store) (new : NewEvaluation) : Statement store (store.insertEvaluation new)
  | message (store : Store) {row : Message} (hid : row.id = store.messages.length + 1) :
      Statement store { store with messages := store.messages ++ [row] }
  | session (store : Store) {row : Session} (hid : row.sessionId = store.sessions.length) :
      Statement store { store with sessions := store.sessions ++ [row] }
  | sessions (store : Store) {picked : Session → Bool} {change : Session → Session}
      (hchange : ∀ row : Session, row.Advances (change row)) :
      Statement store (store.updateSessions picked change)
  | dispute (store : Store) (new : NewDispute) : Statement store (store.insertDisputeIfNew new)
  | disputes (store : Store) {picked : Dispute → Bool} {change : Dispute → Dispute}
      (hchange : ∀ row ∈ store.disputes, picked row = true → row.Advances (change row)) :
      Statement store (store.updateDisputes picked change)

/-- Any number of statements. -/
abbrev Statements : Store → Store → Prop := ReflTransGen Statement

/-! ## What statements do not take away -/

/-- The rows of a table are still there, each moved forward by the relation. -/
def RowsAdvance {Row : Type} (advances : Row → Row → Prop) (rows later : List Row) : Prop :=
  ∀ (i : Nat) row, rows[i]? = some row → ∃ found, later[i]? = some found ∧ advances row found

section

variable {Row : Type} {advances : Row → Row → Prop} {a b c : List Row}

/-- Rows advance to themselves. -/
theorem RowsAdvance.refl (hrefl : ∀ row, advances row row) (rows : List Row) :
    RowsAdvance advances rows rows := fun _ row hrow => ⟨row, hrow, hrefl row⟩

/-- One advance of all rows after another. -/
theorem RowsAdvance.trans (htrans : ∀ {x y z}, advances x y → advances y z → advances x z)
    (h : RowsAdvance advances a b) (h' : RowsAdvance advances b c) : RowsAdvance advances a c := by
  intro i row hrow
  obtain ⟨found, hfound, hmoved⟩ := h i row hrow
  obtain ⟨last, hlast, hmoved'⟩ := h' i found hfound
  exact ⟨last, hlast, htrans hmoved hmoved'⟩

/-- Rows that are added leave the others in their places. -/
theorem RowsAdvance.append (hrefl : ∀ row, advances row row) (rows more : List Row) :
    RowsAdvance advances rows (rows ++ more) := by
  intro i row hrow
  refine ⟨row, ?_, hrefl row⟩
  rw [List.getElem?_append_left (List.getElem?_eq_some_iff.mp hrow).1]
  exact hrow

/-- Rows that are updated in place. -/
theorem RowsAdvance.update (hrefl : ∀ row, advances row row) {picked : Row → Bool}
    {change : Row → Row} (hchange : ∀ row ∈ a, picked row = true → advances row (change row)) :
    RowsAdvance advances a (a.map fun row => if picked row then change row else row) := by
  intro i row hrow
  rw [List.getElem?_map, hrow]
  refine ⟨_, rfl, ?_⟩
  simp only []
  by_cases hpicked : picked row = true
  · rw [if_pos hpicked]
    exact hchange row (List.mem_of_getElem? hrow) hpicked
  · rw [if_neg hpicked]
    exact hrefl row

end

/-- A later store: the logs are longer, and every row moved forward in its place. -/
structure Store.Later (store later : Store) : Prop where
  events : store.events <+: later.events
  evaluations : store.evaluations <+: later.evaluations
  messages : store.messages <+: later.messages
  sessions : RowsAdvance Session.Advances store.sessions later.sessions
  disputes : RowsAdvance Dispute.Advances store.disputes later.disputes

/-- Every row has the number of its place. -/
structure Store.InPlace (store : Store) : Prop where
  events : ∀ (i : Nat) event, store.events[i]? = some event → event.id = i + 1
  evaluations : ∀ (i : Nat) evaluation, store.evaluations[i]? = some evaluation →
    evaluation.id = i + 1
  messages : store.Numbered
  sessions : ∀ (i : Nat) session, store.sessions[i]? = some session → session.sessionId = i

/-- A row with the next number keeps a table numbered. -/
theorem numbered_concat {Row : Type} {number : Row → Int} {rows : List Row} {row : Row}
    (h : ∀ (i : Nat) found, rows[i]? = some found → number found = i + 1)
    (hrow : number row = rows.length + 1) :
    ∀ (i : Nat) found, (rows ++ [row])[i]? = some found → number found = i + 1 := by
  intro i found hfound
  by_cases hlt : i < rows.length
  · rw [List.getElem?_append_left hlt] at hfound
    exact h i found hfound
  · rw [List.getElem?_append_right (by omega), List.getElem?_singleton] at hfound
    split at hfound
    · cases hfound
      omega
    · cases hfound

namespace Store.Later

variable {a b c : Store}

/-- A store is later than itself. -/
theorem refl (store : Store) : store.Later store :=
  ⟨List.prefix_rfl, List.prefix_rfl, List.prefix_rfl, .refl .refl _, .refl .refl _⟩

/-- Later than later is later. -/
theorem trans (h : a.Later b) (h' : b.Later c) : a.Later c where
  events := h.events.trans h'.events
  evaluations := h.evaluations.trans h'.evaluations
  messages := h.messages.trans h'.messages
  sessions := h.sessions.trans .trans h'.sessions
  disputes := h.disputes.trans .trans h'.disputes

/-- One statement takes nothing away. -/
theorem of_statement (h : Statement a b) : a.Later b := by
  have sessions : RowsAdvance Session.Advances a.sessions a.sessions := .refl .refl _
  have disputes : RowsAdvance Dispute.Advances a.disputes a.disputes := .refl .refl _
  cases h with
  | event new =>
    exact ⟨List.prefix_append _ _, List.prefix_rfl, List.prefix_rfl, sessions, disputes⟩
  | evaluation new =>
    exact ⟨List.prefix_rfl, List.prefix_append _ _, List.prefix_rfl, sessions, disputes⟩
  | message hid =>
    exact ⟨List.prefix_rfl, List.prefix_rfl, List.prefix_append _ _, sessions, disputes⟩
  | session hid =>
    exact ⟨List.prefix_rfl, List.prefix_rfl, List.prefix_rfl, .append .refl _ _, disputes⟩
  | sessions hchange =>
    exact ⟨List.prefix_rfl, List.prefix_rfl, List.prefix_rfl,
      .update .refl fun row _ _ => hchange row, disputes⟩
  | dispute new =>
    unfold Store.insertDisputeIfNew
    split
    · exact refl a
    · exact ⟨List.prefix_rfl, List.prefix_rfl, List.prefix_rfl, sessions, .append .refl _ _⟩
  | disputes hchange =>
    exact ⟨List.prefix_rfl, List.prefix_rfl, List.prefix_rfl, sessions, .update .refl hchange⟩

/-- No sequence of statements takes anything away. -/
theorem of_statements (h : Statements a b) : a.Later b := by
  induction h with
  | refl => exact refl a
  | tail _ hlast ih => exact ih.trans (of_statement hlast)

end Store.Later

namespace Store.InPlace

variable {a b : Store}

/-- A statement gives a new row the next number. -/
theorem of_statement (h : a.InPlace) (hstep : Statement a b) : b.InPlace := by
  cases hstep with
  | event new =>
    exact { h with events := numbered_concat h.events rfl }
  | evaluation new =>
    exact { h with evaluations := numbered_concat h.evaluations rfl }
  | message hid =>
    exact { h with messages := numbered_concat h.messages hid }
  | @session row hid =>
    refine { h with sessions := fun i found hfound => ?_ }
    by_cases hlt : i < a.sessions.length
    · rw [List.getElem?_append_left hlt] at hfound
      exact h.sessions i found hfound
    · rw [List.getElem?_append_right (by omega), List.getElem?_singleton] at hfound
      split at hfound
      · next hzero =>
        cases hfound
        have hlast : i = a.sessions.length := by omega
        exact hid.trans hlast.symm
      · cases hfound
  | @sessions picked change hchange =>
    refine { h with sessions := fun i found hfound => ?_ }
    -- The id is one of the terms.
    obtain ⟨row, hrow, rfl⟩ := Option.map_eq_some_iff.mp (List.getElem?_map ▸ hfound)
    rw [← h.sessions i row hrow]
    split
    · exact congrArg Prod.fst (hchange row).terms
    · rfl
  | dispute new =>
    unfold Store.insertDisputeIfNew
    split
    · exact h
    · exact ⟨h.events, h.evaluations, h.messages, h.sessions⟩
  | disputes hchange => exact ⟨h.events, h.evaluations, h.messages, h.sessions⟩

/-- Statements keep every row in its place. -/
theorem of_statements (h : a.InPlace) (hsteps : Statements a b) : b.InPlace := by
  induction hsteps with
  | refl => exact h
  | tail _ hlast ih => exact ih.of_statement hlast

end Store.InPlace

end Serbero
