import Mathlib
import Serbero.Judge.State
import Serbero.Lib.Runs

/-! # Redaction

What a text keeps of itself when its Nostr identifiers are redacted, and why cutting it before and
after cannot bring one back: a redacted text is never longer than it was. -/

namespace Serbero

/-- A maximal run of ASCII letters and digits. -/
abbrev IsWord (word text : List Char) : Prop := Runs.IsRun Char.isAlphanum word text

/-- A key or an event id, or a word that parses as NIP-19 in lower case. -/
def Identifies (nip19 : List Char → Bool) (word : List Char) : Prop :=
  (word.length = 64 ∧ ∀ c ∈ word, isHexDigit c = true) ∨ nip19 (word.map Char.toLower) = true

/-- What NIP-19 words are: they begin with an `n`, and are longer than the placeholder. -/
structure Nip19Words (nip19 : List Char → Bool) : Prop where
  head {word : List Char} : nip19 word = true → word.head? = some 'n'
  longer {word : List Char} : nip19 word = true → redacted.length < word.length

/-- A text without an identifier among its words. -/
def Clean (nip19 : List Char → Bool) (text : List Char) : Prop :=
  ∀ word, IsWord word text → ¬Identifies nip19 word

/-- What becomes of a piece of a text: an identifier is replaced by the placeholder, anything else
stays. -/
inductive Replaced (nip19 : List Char → Bool) : List Char → List Char → Prop
  | identifier {piece : List Char} : Identifies nip19 piece → Replaced nip19 piece redacted
  | other {piece : List Char} : ¬Identifies nip19 piece → Replaced nip19 piece piece

/-- A text redacted word by word: it falls into pieces in order, each a maximal run of letters and
digits or a single other character, and each is replaced or stays. -/
def RedactsWords (nip19 : List Char → Bool) (text out : List Char) : Prop :=
  ∃ pieces outs, pieces.flatten = text ∧ outs.flatten = out ∧
    List.Forall₂ (Replaced nip19) pieces outs ∧
    ∀ before piece after, pieces = before ++ piece :: after →
      Runs.Apart Char.isAlphanum before.flatten piece after.flatten

section redact

variable {nip19 : List Char → Bool}

/-- The code's test. -/
theorem isNostrIdentifier_iff (law : Nip19Words nip19) {word : List Char} :
    isNostrIdentifier nip19 word = true ↔ Identifies nip19 word := by
  rw [isNostrIdentifier, Identifies]
  simp only [Bool.or_eq_true, Bool.and_eq_true, beq_iff_eq, List.all_eq_true]
  refine or_congr_right ⟨And.right, fun h => ⟨law.head h, h⟩⟩

/-- An identifier is longer than the placeholder. -/
theorem length_lt_of_isNostrIdentifier (law : Nip19Words nip19) {word : List Char}
    (h : isNostrIdentifier nip19 word = true) : redacted.length < word.length := by
  rcases (isNostrIdentifier_iff law).mp h with ⟨hlength, -⟩ | hnip19
  · rw [hlength]
    decide
  · have hlonger := law.longer hnip19
    rwa [List.length_map] at hlonger

/-- A lower-case letter comes from a letter. -/
theorem isAlphanum_of_toLower_eq {c : Char} (h : c.toLower = 'n') : c.isAlphanum = true := by
  unfold Char.toLower at h
  split at h
  · next hupper =>
    have : c.isUpper = true := by
      simpa [Char.isUpper] using hupper
    simp [Char.isAlphanum, Char.isAlpha, this]
  · rw [h]
    decide

/-- What is no letter or digit is no identifier. -/
theorem isNostrIdentifier_singleton {c : Char} (hc : c.isAlphanum = false) :
    isNostrIdentifier nip19 [c] = false := by
  by_contra h
  rw [Bool.not_eq_false, isNostrIdentifier] at h
  simp only [List.length_singleton, List.map_singleton, List.head?_cons, Bool.or_eq_true,
    Bool.and_eq_true, beq_iff_eq, Option.some.injEq] at h
  rcases h with ⟨hlength, -⟩ | ⟨hhead, -⟩
  · omega
  · rw [isAlphanum_of_toLower_eq hhead] at hc
    cases hc

/-- The empty word is no identifier. -/
theorem flushWord_nil : flushWord nip19 [] = [] := by
  simp [flushWord, isNostrIdentifier]

/-- **Redaction works word by word.** Each identifier among the words is replaced; every other word
and every character between words stays. -/
theorem redactFrom_eq (word text : List Char) :
    redactFrom nip19 word text =
      (Runs.tokensFrom Char.isAlphanum word text).flatMap (flushWord nip19) := by
  induction text generalizing word with
  | nil => simp [redactFrom, Runs.tokensFrom]
  | cons c rest ih =>
    rw [redactFrom, Runs.tokensFrom]
    split
    · exact ih _
    · next hc =>
      have hflush : flushWord nip19 [c] = [c] := by
        rw [flushWord, isNostrIdentifier_singleton (Bool.eq_false_iff.mpr hc)]
        rfl
      rw [List.flatMap_cons, List.flatMap_cons, hflush, ih]
      rfl

/-- A redacted text is no longer than the text. -/
theorem length_redactFrom_le (law : Nip19Words nip19) (word text : List Char) :
    (redactFrom nip19 word text).length ≤ word.length + text.length := by
  have hflush : ∀ word, (flushWord nip19 word).length ≤ word.length := by
    intro word
    rw [flushWord]
    split
    · next h => exact (length_lt_of_isNostrIdentifier law h).le
    · exact le_rfl
  induction text generalizing word with
  | nil => exact hflush word
  | cons c rest ih =>
    rw [redactFrom]
    split
    · have h := ih (word ++ [c])
      rw [List.length_append, List.length_singleton] at h
      rw [List.length_cons]
      omega
    · have h := ih []
      have hword := hflush word
      rw [List.length_append, List.length_cons, List.length_cons]
      rw [List.length_nil] at h
      omega

/-- Two clean texts with something between them that is no letter or digit are a clean text. -/
theorem Clean.append_cons {before after : List Char} {c : Char} (hc : c.isAlphanum = false)
    (hbefore : Clean nip19 before) (hafter : Clean nip19 after) :
    Clean nip19 (before ++ c :: after) := by
  intro word hword
  rcases (Runs.isRun_append_cons_iff hc).mp hword with h | h
  · exact hbefore word h
  · exact hafter word h

/-- The placeholder is clean. -/
theorem clean_redacted (law : Nip19Words nip19) : Clean nip19 redacted := by
  intro word hword hidentifies
  have hlength := length_lt_of_isNostrIdentifier law ((isNostrIdentifier_iff law).mpr hidentifies)
  obtain ⟨-, -, before, after, htext, -⟩ := hword
  have htotal := congrArg List.length htext
  rw [List.length_append, List.length_append] at htotal
  omega

/-- A word alone is clean unless it is an identifier. -/
theorem clean_flushWord (law : Nip19Words nip19) {word : List Char}
    (hword : ∀ c ∈ word, c.isAlphanum = true) : Clean nip19 (flushWord nip19 word) := by
  rw [flushWord]
  split
  · exact clean_redacted law
  · next hnot =>
    intro run hrun hidentifies
    have hmem := Runs.mem_tokens_of_isRun hrun
    rw [Runs.tokens_of_all hword, List.mem_singleton] at hmem
    rw [hmem] at hidentifies
    exact hnot ((isNostrIdentifier_iff law).mpr hidentifies)

/-- **A redacted text is clean.** -/
theorem clean_redactFrom (law : Nip19Words nip19) {word : List Char}
    (hword : ∀ c ∈ word, c.isAlphanum = true) (text : List Char) :
    Clean nip19 (redactFrom nip19 word text) := by
  induction text generalizing word with
  | nil => exact clean_flushWord law hword
  | cons c rest ih =>
    rw [redactFrom]
    split
    · next hc =>
      refine ih fun other hother => ?_
      rcases List.mem_append.mp hother with h | h
      · exact hword other h
      · rw [List.mem_singleton.mp h]
        exact hc
    · next hc =>
      exact Clean.append_cons (Bool.eq_false_iff.mpr hc) (clean_flushWord law hword)
        (ih fun other hother => absurd hother List.not_mem_nil)

/-- A clean text is left as it is. -/
theorem redactFrom_of_clean (law : Nip19Words nip19) {text : List Char} (h : Clean nip19 text) :
    redactFrom nip19 [] text = text := by
  have hkeep : ∀ token ∈ Runs.tokens Char.isAlphanum text, flushWord nip19 token = token := by
    intro token htoken
    rcases Runs.token_cases htoken with hword | ⟨c, rfl, hc⟩
    · by_cases hnil : token = []
      · rw [hnil, flushWord_nil]
      · have hclean := h token (Runs.isRun_of_mem_tokens hnil hword htoken)
        rw [flushWord, if_neg fun hid => hclean ((isNostrIdentifier_iff law).mp hid)]
    · rw [flushWord, isNostrIdentifier_singleton hc]
      rfl
  calc redactFrom nip19 [] text
      = ((Runs.tokens Char.isAlphanum text).map (flushWord nip19)).flatten := by
        rw [redactFrom_eq, List.flatMap_def, Runs.tokens]
    _ = (Runs.tokens Char.isAlphanum text).flatten := by
        rw [List.map_congr_left hkeep, List.map_id']
    _ = text := Runs.flatten_tokensFrom [] text

/-- **What redaction does.** Each identifier among the words is replaced, and nothing else. -/
theorem redactsWords (law : Nip19Words nip19) (text : String) :
    RedactsWords nip19 text.toList (redact nip19 text).toList := by
  refine ⟨Runs.tokens Char.isAlphanum text.toList,
    (Runs.tokens Char.isAlphanum text.toList).map (flushWord nip19),
    Runs.flatten_tokensFrom [] text.toList, ?_, ?_, fun before token after h =>
      Runs.apart_of_tokens_eq h⟩
  · rw [redact, String.toList_ofList, redactFrom_eq, List.flatMap_def, Runs.tokens]
  · rw [List.forall₂_map_right_iff, List.forall₂_same]
    intro token _
    rw [flushWord]
    split
    · next h => exact .identifier ((isNostrIdentifier_iff law).mp h)
    · next h => exact .other fun hidentifies => h ((isNostrIdentifier_iff law).mpr hidentifies)

/-- Redacting twice is redacting once. -/
theorem redact_redact (law : Nip19Words nip19) (text : String) :
    redact nip19 (redact nip19 text) = redact nip19 text := by
  rw [redact, redact, String.toList_ofList, redactFrom_of_clean law]
  exact clean_redactFrom law (fun c hc => absurd hc List.not_mem_nil) text.toList

/-- **Truncated, redacted, truncated.** Redaction does not lengthen a text, so the second cut takes
nothing away, and no word is made by it. -/
theorem clean_truncate_redact (law : Nip19Words nip19) (content : String) (max : Nat) :
    Clean nip19 (truncate (redact nip19 (truncate content max)) max).toList := by
  have hlength := length_redactFrom_le law [] (content.toList.take max)
  have hle : (redactFrom nip19 [] (content.toList.take max)).length ≤ max := by
    rw [List.length_nil, List.length_take] at hlength
    omega
  rw [truncate, redact, truncate, String.toList_ofList, String.toList_ofList, String.toList_ofList,
    List.take_of_length_le hle]
  exact clean_redactFrom law (fun c hc => absurd hc List.not_mem_nil) _

/-- A text whose characters are no letters or digits is left as it is. -/
theorem redactFrom_of_forall {text : List Char} (h : ∀ c ∈ text, c.isAlphanum = false) :
    redactFrom nip19 [] text = text := by
  induction text with
  | nil => exact flushWord_nil
  | cons c rest ih =>
    have hc := h c List.mem_cons_self
    rw [redactFrom, if_neg (by simp [hc]), flushWord_nil,
      ih fun other hother => h other (List.mem_cons_of_mem _ hother)]
    rfl

end redact

end Serbero
