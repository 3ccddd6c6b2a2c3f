import Mathlib.Data.Finset.Basic
import Mathlib.Data.List.DropRight
import Serbero.Chat.Cursor

/-! # The outer ids seen recently

A set that answers whether an id was seen, and a queue that says which id is the oldest. The two are
kept in step: what leaves the queue at its capacity leaves the set. Together they remember exactly
the last ids that were new when they came. -/

namespace Serbero

variable {Id : Type} [DecidableEq Id]

/-- The ids seen recently, as a set and in the order they came. -/
structure SeenSet (Id : Type) where
  ids : Finset Id
  order : List Id

namespace SeenSet

/-- Nothing was seen. -/
def empty : SeenSet Id := ⟨∅, []⟩

/-- Whether `id` is new, and the set that remembers it. -/
def insert (seen : SeenSet Id) (id : Id) : Bool × SeenSet Id :=
  if id ∈ seen.ids then (false, seen)
  else
    let ids := Insert.insert id seen.ids
    let order := seen.order ++ [id]
    if seenOuterCapacity < order.length then
      match order with
      | oldest :: rest => (true, ⟨ids.erase oldest, rest⟩)
      | [] => (true, ⟨ids, order⟩)
    else (true, ⟨ids, order⟩)

/-- An id that was seen changes nothing. -/
theorem insert_of_mem {seen : SeenSet Id} {id : Id} (h : id ∈ seen.ids) :
    seen.insert id = (false, seen) := if_pos h

/-- A new id below the capacity is remembered. -/
theorem insert_of_lt {seen : SeenSet Id} {id : Id} (h : id ∉ seen.ids)
    (hroom : seen.order.length < seenOuterCapacity) :
    seen.insert id = (true, ⟨Insert.insert id seen.ids, seen.order ++ [id]⟩) := by
  have hlength : ¬ seenOuterCapacity < (seen.order ++ [id]).length := by
    rw [List.length_append, List.length_singleton]
    omega
  simp only [insert, if_neg h, if_neg hlength]

/-- A new id at the capacity takes the place of the oldest one. -/
theorem insert_of_full {ids : Finset Id} {oldest id : Id} {rest : List Id} (h : id ∉ ids)
    (hfull : seenOuterCapacity ≤ (oldest :: rest).length) :
    insert ⟨ids, oldest :: rest⟩ id =
      (true, ⟨(Insert.insert id ids).erase oldest, rest ++ [id]⟩) := by
  have hlength : seenOuterCapacity < (oldest :: (rest ++ [id])).length := by
    rw [← List.cons_append, List.length_append, List.length_singleton]
    omega
  simp only [insert, if_neg h, List.cons_append]
  rw [if_pos hlength]

/-- What one more insert makes of the set and of the ids that were new so far. -/
def step (state : SeenSet Id × List Id) (id : Id) : SeenSet Id × List Id :=
  let (fresh, seen) := state.1.insert id
  (seen, if fresh then state.2 ++ [id] else state.2)

/-- The set after a sequence of inserts, and the ids whose insert returned true, oldest first. -/
def run (inserts : List Id) : SeenSet Id × List Id := inserts.foldl step (empty, [])

/-- The last insertion is made last. -/
theorem run_concat (inserts : List Id) (id : Id) :
    run (inserts ++ [id]) = step (run inserts) id := by
  simp [run]

/-- The set stands for the last of the ids that were new. -/
structure StandsFor (seen : SeenSet Id) (fresh : List Id) : Prop where
  ids : ∀ id, id ∈ seen.ids ↔ id ∈ seen.order
  nodup : seen.order.Nodup
  recent : seen.order = fresh.rtake seenOuterCapacity

namespace StandsFor

variable {seen : SeenSet Id} {fresh : List Id}

omit [DecidableEq Id] in
/-- The queue holds the newest fresh ids, up to its capacity. -/
theorem length_eq (h : seen.StandsFor fresh) :
    seen.order.length = min fresh.length seenOuterCapacity := by
  rw [h.recent, List.rtake, List.length_drop]
  omega

/-- An insert tells whether the id is among the last ids that were new. -/
theorem insert_fst (h : seen.StandsFor fresh) (id : Id) :
    (seen.insert id).1 = true ↔ id ∉ fresh.rtake seenOuterCapacity := by
  rw [← h.recent, ← h.ids id]
  by_cases hmem : id ∈ seen.ids
  · simp [insert_of_mem hmem, hmem]
  · simp only [hmem, not_false_eq_true, iff_true]
    unfold SeenSet.insert
    rw [if_neg hmem]
    dsimp only
    split
    · split <;> rfl
    · rfl

/-- One insert keeps the set and the queue in step. -/
theorem step (h : seen.StandsFor fresh) (id : Id) :
    (SeenSet.step (seen, fresh) id).1.StandsFor (SeenSet.step (seen, fresh) id).2 := by
  by_cases hmem : id ∈ seen.ids
  · simpa [SeenSet.step, insert_of_mem hmem] using h
  have hout : id ∉ seen.order := fun hin => hmem ((h.ids id).mpr hin)
  have hlength := h.length_eq
  obtain ⟨n, hn⟩ : ∃ n, seenOuterCapacity = n + 1 := ⟨4095, rfl⟩
  by_cases hroom : seen.order.length < seenOuterCapacity
  · -- Nothing was forgotten yet.
    have hall : seen.order = fresh := by
      rw [h.recent, List.rtake, show fresh.length - seenOuterCapacity = 0 by omega, List.drop_zero]
    have hkeep : fresh.rtake n = fresh := by
      rw [List.rtake, show fresh.length - n = 0 by omega, List.drop_zero]
    simp only [SeenSet.step, insert_of_lt hmem hroom, if_true]
    refine ⟨fun other => ?_, ?_, ?_⟩
    · simp [h.ids other, or_comm]
    · rw [List.nodup_append]
      exact ⟨h.nodup, List.nodup_singleton id, by rintro a ha b hb rfl; simp_all⟩
    · rw [hn, List.rtake_concat_succ, hkeep, hall]
  · -- The oldest one is forgotten, and is not the new one.
    have hfull : n + 1 ≤ fresh.length := by omega
    obtain ⟨ids, order⟩ := seen
    cases order with
    | nil => simp [hn] at hroom
    | cons oldest rest =>
    have hnodup := List.nodup_cons.mp h.nodup
    have hrest : rest = fresh.rtake n := by
      have htail := congrArg List.tail h.recent
      rw [hn, List.tail_cons, List.rtake, List.tail_drop] at htail
      rw [htail, List.rtake, show fresh.length - (n + 1) + 1 = fresh.length - n by omega]
    simp only [SeenSet.step, insert_of_full hmem (not_lt.mp hroom), if_true]
    refine ⟨fun other => ?_, ?_, ?_⟩
    · have hother := h.ids other
      rw [Finset.mem_erase, Finset.mem_insert, List.mem_append, List.mem_singleton]
      simp only [List.mem_cons] at hother hout
      by_cases hold : other = oldest
      · subst hold
        simp [hnodup.1, Ne.symm (fun heq => hout (.inl heq))]
      · simp [hold, hother, or_comm]
    · rw [List.nodup_append]
      exact ⟨hnodup.2, List.nodup_singleton id, by rintro a ha b hb rfl; simp_all⟩
    · rw [hn, List.rtake_concat_succ, hrest]

end StandsFor

/-- However many ids came, the set stands for the last of the new ones. -/
theorem standsFor_run (inserts : List Id) : (run inserts).1.StandsFor (run inserts).2 := by
  induction inserts using List.reverseRecOn with
  | nil => exact ⟨fun id => by simp [run, empty], List.nodup_nil, (List.rtake_nil seenOuterCapacity).symm⟩
  | append_singleton inserts id ih =>
    rw [run_concat]
    exact ih.step id

/-- **The set and its queue.** After any inserts the set holds exactly the queue's ids, the queue has
no duplicate and stays within the capacity, and the next insert returns true exactly when its id is
not among the last ids, as many as the capacity, whose insert returned true. -/
theorem seenSet_in_step (inserts : List Id) (id : Id) :
    let (seen, fresh) := run inserts
    (∀ other, other ∈ seen.ids ↔ other ∈ seen.order) ∧ seen.order.Nodup ∧
      seen.order.length ≤ seenOuterCapacity ∧
      ((seen.insert id).1 = true ↔ id ∉ fresh.rtake seenOuterCapacity) := by
  have h := standsFor_run inserts
  have hlength : (run inserts).1.order.length ≤ seenOuterCapacity := by
    rw [h.length_eq]
    exact min_le_right _ _
  exact ⟨h.ids, h.nodup, hlength, h.insert_fst id⟩

/-- The queue alone tells what the set tells, so a channel needs to keep no more of it. -/
theorem insertSeen_eq {seen : SeenSet Nat} {fresh : List Nat} (h : seen.StandsFor fresh)
    (id : Nat) :
    insertSeen seen.order id =
      if (seen.insert id).1 then some (seen.insert id).2.order else none := by
  by_cases hmem : id ∈ seen.ids
  · rw [insert_of_mem hmem, insertSeen, if_pos (by simpa using (h.ids id).mp hmem)]
    rfl
  have hout : seen.order.contains id = false := by
    simpa using fun hin => hmem ((h.ids id).mpr hin)
  rw [insertSeen, hout, if_neg Bool.false_ne_true]
  unfold SeenSet.insert
  rw [if_neg hmem]
  dsimp only
  cases hsplit : seen.order ++ [id] with
  | nil => simp at hsplit
  | cons oldest rest => split <;> rfl

end SeenSet

end Serbero
