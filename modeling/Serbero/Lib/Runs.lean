import Mathlib.Data.List.DropRight
import Mathlib.Data.List.Induction

/-! # Maximal runs

The maximal runs of entries that satisfy a test, as a property of a place in a list, and the list
taken apart into its runs and the entries between them. -/

namespace Runs

variable {α : Type*} {p : α → Bool}

/-- A maximal run: something that satisfies the test throughout, with no such entry beside it. -/
def IsRun (p : α → Bool) (run text : List α) : Prop :=
  run ≠ [] ∧ (∀ entry ∈ run, p entry = true) ∧
    ∃ before after, text = before ++ run ++ after ∧
      (∀ entry ∈ before.getLast?, p entry = false) ∧ ∀ entry ∈ after.head?, p entry = false

/-- A run is a part of the list. -/
theorem IsRun.part {run text : List α} (h : IsRun p run text) : run <:+: text := by
  obtain ⟨-, -, before, after, rfl, -⟩ := h
  exact ⟨before, after, rfl⟩

/-- A list taken apart, when `word` is the run read so far: its runs, some of them empty, with each
other entry between two of them. -/
def tokensFrom (p : α → Bool) (word : List α) : List α → List (List α)
  | [] => [word]
  | entry :: rest =>
    if p entry then tokensFrom p (word ++ [entry]) rest
    else word :: [entry] :: tokensFrom p [] rest

/-- A list taken apart into its runs and the entries between them. -/
def tokens (p : α → Bool) (text : List α) : List (List α) := tokensFrom p [] text

/-- The tokens make the text. -/
theorem flatten_tokensFrom (word text : List α) : (tokensFrom p word text).flatten = word ++ text := by
  induction text generalizing word with
  | nil => simp [tokensFrom]
  | cons entry rest ih =>
    rw [tokensFrom]
    split
    · rw [ih, List.append_assoc]
      rfl
    · simp [ih]

/-- A run is read on. -/
theorem tokensFrom_append_of_all {run : List α} (hrun : ∀ entry ∈ run, p entry = true)
    (word text : List α) : tokensFrom p word (run ++ text) = tokensFrom p (word ++ run) text := by
  induction run generalizing word with
  | nil => simp
  | cons entry rest ih =>
    rw [List.cons_append, tokensFrom, if_pos (hrun entry List.mem_cons_self),
      ih fun entry hentry => hrun entry (List.mem_cons_of_mem _ hentry)]
    simp

/-- An entry between runs ends one and begins another. -/
theorem tokensFrom_append_cons {entry : α} (hentry : p entry = false) (word before after : List α) :
    tokensFrom p word (before ++ entry :: after) =
      tokensFrom p word before ++ [entry] :: tokens p after := by
  induction before generalizing word with
  | nil =>
    have hnot : ¬p entry = true := by simp [hentry]
    rw [List.nil_append, tokensFrom.eq_2, if_neg hnot]
    rfl
  | cons first rest ih =>
    rw [List.cons_append, tokensFrom, tokensFrom]
    split
    · exact ih _
    · rw [ih]
      rfl

/-- An entry outside every token stands alone between the tokens of both sides. -/
theorem tokens_append_cons {entry : α} (hentry : p entry = false) (before after : List α) :
    tokens p (before ++ entry :: after) = tokens p before ++ [entry] :: tokens p after :=
  tokensFrom_append_cons hentry [] before after

/-- A text that is one run. -/
theorem tokens_of_all {run : List α} (hrun : ∀ entry ∈ run, p entry = true) :
    tokens p run = [run] := by
  have h := tokensFrom_append_of_all hrun [] []
  rw [List.append_nil] at h
  exact h

/-- A token satisfies the test throughout, or is a single entry that does not. -/
theorem token_cases {token text : List α} (hmem : token ∈ tokens p text) :
    (∀ entry ∈ token, p entry = true) ∨ ∃ entry, token = [entry] ∧ p entry = false := by
  have key : ∀ (text word : List α), (∀ entry ∈ word, p entry = true) →
      token ∈ tokensFrom p word text →
        (∀ entry ∈ token, p entry = true) ∨ ∃ entry, token = [entry] ∧ p entry = false := by
    intro text
    induction text with
    | nil =>
      intro word hword hmem
      rw [List.mem_singleton.mp hmem]
      exact Or.inl hword
    | cons first rest ih =>
      intro word hword hmem
      rw [tokensFrom] at hmem
      split at hmem
      · next hfirst =>
        refine ih _ (fun entry hentry => ?_) hmem
        rcases List.mem_append.mp hentry with h | h
        · exact hword entry h
        · rw [List.mem_singleton.mp h]
          exact hfirst
      · next hfirst =>
        rcases List.mem_cons.mp hmem with rfl | hmem
        · exact Or.inl hword
        · rcases List.mem_cons.mp hmem with rfl | hmem
          · exact Or.inr ⟨first, rfl, Bool.eq_false_iff.mpr hfirst⟩
          · exact ih [] (fun entry hentry => absurd hentry List.not_mem_nil) hmem
  exact key text [] (fun entry hentry => absurd hentry List.not_mem_nil) hmem

/-- What a token is where it stands: a single entry that does not satisfy the test, or entries that
do, with none beside them. -/
def Apart (p : α → Bool) (before token after : List α) : Prop :=
  (∃ entry, token = [entry] ∧ p entry = false) ∨
    (∀ entry ∈ token, p entry = true) ∧ (∀ entry ∈ before.getLast?, p entry = false) ∧
      ∀ entry ∈ after.head?, p entry = false

/-- **Each token stands apart.** -/
theorem apart_of_tokens_eq {text : List α} {before after : List (List α)} {token : List α}
    (h : tokens p text = before ++ token :: after) :
    Apart p before.flatten token after.flatten := by
  have key : ∀ (text word : List α) (before : List (List α)), (∀ entry ∈ word, p entry = true) →
      tokensFrom p word text = before ++ token :: after →
        Apart p before.flatten token after.flatten := by
    intro text
    induction text with
    | nil =>
      intro word before hword h
      rw [tokensFrom, List.singleton_eq_append_iff] at h
      rcases h with ⟨rfl, h⟩ | ⟨-, h⟩
      · rw [List.cons.injEq] at h
        obtain ⟨rfl, rfl⟩ := h
        exact Or.inr ⟨hword, by simp, by simp⟩
      · exact absurd h (List.cons_ne_nil _ _)
    | cons entry rest ih =>
      intro word before hword h
      rw [tokensFrom] at h
      split at h
      · next hentry =>
        refine ih _ _ (fun other hother => ?_) h
        rcases List.mem_append.mp hother with hold | hnew
        · exact hword other hold
        · rw [List.mem_singleton.mp hnew]
          exact hentry
      · next hentry =>
        have hentry : p entry = false := Bool.eq_false_iff.mpr hentry
        -- The token is the run read so far, the entry that ended it, or one after that.
        match before, h with
        | [], h =>
          rw [List.nil_append, List.cons.injEq] at h
          obtain ⟨rfl, rfl⟩ := h
          exact Or.inr ⟨hword, by simp, by simpa using hentry⟩
        | [first], h =>
          rw [List.singleton_append, List.cons.injEq, List.cons.injEq] at h
          exact Or.inl ⟨entry, h.2.1.symm, hentry⟩
        | first :: second :: before, h =>
          rw [List.cons_append, List.cons_append, List.cons.injEq, List.cons.injEq] at h
          obtain ⟨rfl, rfl, h⟩ := h
          refine (ih [] before (fun other hother => absurd hother List.not_mem_nil) h).imp_right ?_
          rintro ⟨htoken, hbefore, hafter⟩
          refine ⟨htoken, fun other hother => ?_, hafter⟩
          simp only [List.flatten_cons, List.getLast?_append, List.getLast?_singleton] at hother
          cases hlast : before.flatten.getLast? with
          | none =>
            rw [hlast] at hother
            simp at hother
            rw [← hother]
            exact hentry
          | some last =>
            rw [hlast] at hother
            simp at hother
            rw [← hother]
            exact hbefore last hlast
  exact key text [] before (fun entry hentry => absurd hentry List.not_mem_nil) h

/-- A maximal run is among the tokens. -/
theorem mem_tokens_of_isRun {run text : List α} (h : IsRun p run text) : run ∈ tokens p text := by
  obtain ⟨-, hrun, before, after, rfl, hbefore, hafter⟩ := h
  have hrest : run ∈ tokens p (run ++ after) := by
    cases after with
    | nil =>
      rw [List.append_nil, tokens_of_all hrun]
      exact List.mem_cons_self
    | cons entry after =>
      rw [tokens_append_cons (hafter entry rfl), tokens_of_all hrun]
      exact List.mem_cons_self
  rw [List.append_assoc]
  rcases List.eq_nil_or_concat before with rfl | ⟨start, entry, rfl⟩
  · exact hrest
  · rw [List.concat_eq_append] at hbefore ⊢
    rw [List.append_assoc, List.cons_append, List.nil_append,
      tokens_append_cons (hbefore entry (by simp))]
    exact List.mem_append_right _ (List.mem_cons_of_mem _ hrest)

/-- A token that satisfies the test throughout is a maximal run. -/
theorem isRun_of_mem_tokens {run text : List α} (hne : run ≠ [])
    (hrun : ∀ entry ∈ run, p entry = true) (hmem : run ∈ tokens p text) : IsRun p run text := by
  have key : ∀ (text word before : List α), (∀ entry ∈ word, p entry = true) →
      (∀ entry ∈ before.getLast?, p entry = false) → run ∈ tokensFrom p word text →
        IsRun p run (before ++ word ++ text) := by
    intro text
    induction text with
    | nil =>
      intro word before hword hbefore hmem
      rw [List.mem_singleton.mp hmem] at hne hrun ⊢
      exact ⟨hne, hrun, before, [], rfl, hbefore, by simp⟩
    | cons entry rest ih =>
      intro word before hword hbefore hmem
      rw [tokensFrom] at hmem
      split at hmem
      · next hentry =>
        have hword' : ∀ other ∈ word ++ [entry], p other = true := by
          intro other hother
          rcases List.mem_append.mp hother with h | h
          · exact hword other h
          · rw [List.mem_singleton.mp h]
            exact hentry
        have h := ih (word ++ [entry]) before hword' hbefore hmem
        simpa using h
      · next hentry =>
        have hentry : p entry = false := Bool.eq_false_iff.mpr hentry
        rcases List.mem_cons.mp hmem with rfl | hmem
        · exact ⟨hne, hrun, before, entry :: rest, rfl, hbefore, by simpa using hentry⟩
        · rcases List.mem_cons.mp hmem with rfl | hmem
          · exact absurd (hrun entry List.mem_cons_self) (by simp [hentry])
          · have h := ih [] (before ++ word ++ [entry]) (by simp) (by simpa using hentry) hmem
            simpa using h
  simpa using key text [] [] (by simp) (by simp) hmem

/-- **The runs of two texts with an entry between them** are the runs of either. -/
theorem isRun_append_cons_iff {entry : α} (hentry : p entry = false) {run before after : List α} :
    IsRun p run (before ++ entry :: after) ↔ IsRun p run before ∨ IsRun p run after := by
  constructor
  · intro h
    have hmem := mem_tokens_of_isRun h
    rw [tokens_append_cons hentry] at hmem
    rcases List.mem_append.mp hmem with hmem | hmem
    · exact Or.inl (isRun_of_mem_tokens h.1 h.2.1 hmem)
    · rcases List.mem_cons.mp hmem with rfl | hmem
      · exact absurd (h.2.1 entry List.mem_cons_self) (by simp [hentry])
      · exact Or.inr (isRun_of_mem_tokens h.1 h.2.1 hmem)
  · have hrun : ∀ {text : List α}, IsRun p run text →
        (run ∈ tokens p before ∨ run ∈ tokens p after) → IsRun p run (before ++ entry :: after) := by
      intro text h hmem
      refine isRun_of_mem_tokens h.1 h.2.1 ?_
      rw [tokens_append_cons hentry]
      rcases hmem with hmem | hmem
      · exact List.mem_append_left _ hmem
      · exact List.mem_append_right _ (List.mem_cons_of_mem _ hmem)
    rintro (h | h)
    · exact hrun h (Or.inl (mem_tokens_of_isRun h))
    · exact hrun h (Or.inr (mem_tokens_of_isRun h))

/-- What satisfies the test throughout is part of a maximal run. -/
theorem exists_isRun_of_infix {piece text : List α} (hne : piece ≠ [])
    (hpiece : ∀ entry ∈ piece, p entry = true) (hpart : piece <:+: text) :
    ∃ run, IsRun p run text ∧ piece <:+: run := by
  obtain ⟨before, after, rfl⟩ := hpart
  refine ⟨before.rtakeWhile p ++ piece ++ after.takeWhile p, ⟨?_, ?_, before.rdropWhile p,
    after.dropWhile p, ?_, ?_, ?_⟩, ⟨_, _, rfl⟩⟩
  · simp [hne]
  · intro entry hentry
    rcases List.mem_append.mp hentry with h | h
    · rcases List.mem_append.mp h with h | h
      · exact List.mem_rtakeWhile_imp h
      · exact hpiece entry h
    · exact List.mem_takeWhile_imp h
  · simp only [← List.append_assoc, List.rdropWhile_append_rtakeWhile]
    rw [List.append_assoc (before ++ piece), List.takeWhile_append_dropWhile]
  · intro entry hentry
    have hdrop : before.rdropWhile p ≠ [] := by
      rintro hnil
      rw [hnil] at hentry
      cases hentry
    have hlast := List.rdropWhile_last_not p before hdrop
    rw [List.getLast?_eq_some_getLast hdrop, Option.mem_some_iff] at hentry
    rw [← hentry]
    exact Bool.eq_false_iff.mpr hlast
  · intro entry hentry
    have hhead := List.head?_dropWhile_not p after
    rw [Option.mem_def.mp hentry] at hhead
    simpa using hhead

/-- A run of lines joined by a separator is a run of one of them. -/
theorem exists_isRun_of_intercalate {separator : α} (hseparator : p separator = false)
    {run : List α} {lines : List (List α)} (h : IsRun p run ([separator].intercalate lines)) :
    ∃ line ∈ lines, IsRun p run line := by
  induction lines with
  | nil =>
    obtain ⟨hne, -, before, after, heq, -⟩ := h
    simp [hne] at heq
  | cons first rest ih =>
    cases rest with
    | nil =>
      rw [List.intercalate_singleton] at h
      exact ⟨first, List.mem_cons_self, h⟩
    | cons second rest =>
      rw [List.intercalate_cons_cons, List.append_assoc, List.singleton_append] at h
      rcases (isRun_append_cons_iff hseparator).mp h with hfirst | hrest
      · exact ⟨first, List.mem_cons_self, hfirst⟩
      · obtain ⟨line, hline, hrun⟩ := ih hrest
        exact ⟨line, List.mem_cons_of_mem _ hline, hrun⟩

end Runs
