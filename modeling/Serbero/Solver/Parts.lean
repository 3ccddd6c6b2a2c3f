import Mathlib.Algebra.BigOperators.Group.List.Basic
import Serbero.Judge.Redaction
import Serbero.Solver.Transcript

/-! # The parts of a long message

What the parts of a split transcript or update are, and how long: every part begins with its header,
the bodies give the rendered lines back, and the header of a part takes more room the more digits
its number and the number of parts have. -/

namespace Serbero

namespace SolverText

/-! ## Lengths -/

/-- A composed text is as long as it was. -/
@[simp] theorem length_composed (text : String) : (composed text).length = text.length := by
  rw [composed, List.length_map, String.length_toList]

/-- The text without its marks is as long. -/
theorem Marked.length_text (marked : Marked) : marked.text.length = marked.length := by
  rw [Marked.text, String.length_ofList, List.length_map]

/-- How many digits a number is written with. -/
def digits (n : Nat) : Nat := (toString n).length

/-- A header is longer by the digits of its part's number and of the number of parts. -/
theorem length_transcriptHeader (disputeId : String) (messages i n : Nat) :
    (transcriptHeader disputeId messages (some (i, n))).length + 6 =
      (transcriptHeader disputeId messages (some (999, 999))).length + digits i + digits n := by
  have hdigits : digits 999 = 3 := by decide +kernel
  unfold digits at *
  simp only [transcriptHeader, length_composed, String.length_append]
  omega

/-- A rendered line has something in it. -/
theorem transcriptLine_ne_nil (nip19 : List Char → Bool) (line : Line) :
    transcriptLine nip19 line ≠ [] := by
  rw [transcriptLine, List.append_assoc]
  apply List.append_ne_nil_of_left_ne_nil
  rw [← List.length_pos_iff, length_composed]
  simp only [String.length_append]
  have : "[".length = 1 := by decide +kernel
  omega

/-- The lengths of the lines of a transcript. -/
def lineLengths (nip19 : List Char → Bool) (lines : List Line) : List Nat :=
  lines.map fun line => (transcriptLine nip19 line).length

/-! ## What the parts are -/

/-- The parts of a message with these rendered lines: numbered in order, each under its header, and
together the lines. -/
def Numbered (header : Nat → Nat → Marked) (rendered parts : List Marked) : Prop :=
  ∃ bodies : List Marked,
    parts = (bodies.zipIdx.map fun body =>
      header (body.2 + 1) bodies.length ++ newline :: body.1) ∧
    Packing.Reassembles newline rendered bodies

/-- What a transcript must be: one message, or numbered parts; each no longer than a message may
be. -/
def TranscriptSplits (nip19 : List Char → Bool) (disputeId : String) (lines : List Line) : Prop :=
  ∃ parts, transcript nip19 disputeId lines = some parts ∧
    (∀ part ∈ parts, part.text.length ≤ maxDmChars) ∧
    (parts = [singleTranscript nip19 disputeId lines] ∨
      Numbered (fun i n => transcriptHeader disputeId lines.length (some (i, n)))
        (lines.map (transcriptLine nip19)) parts)

/-- What an update must be: parts under one header, each no longer than a message may be. -/
def UpdateSplits (nip19 : List Char → Bool) (disputeId : String) (lines : List Line) : Prop :=
  ∃ parts, update nip19 disputeId lines = some parts ∧
    (∀ part ∈ parts, part.text.length ≤ maxDmChars) ∧
    Numbered (fun _ _ => updateHeader disputeId lines.length)
      (lines.map (transcriptLine nip19)) parts

/-- The headers of a transcript have room: it fits into one message, or each part, as the lengths of
the lines fill it, leaves enough for the digits of its number and of the number of parts. -/
def HeadersFit (nip19 : List Char → Bool) (disputeId : String) (lines : List Line) : Prop :=
  (singleTranscript nip19 disputeId lines).length ≤ maxDmChars ∨
    ∀ index size, (Packing.sizes (transcriptBudget disputeId lines.length)
        (lineLengths nip19 lines))[index]? = some size →
      size + digits (index + 1) + digits (Packing.sizes (transcriptBudget disputeId lines.length)
        (lineLengths nip19 lines)).length ≤ transcriptBudget disputeId lines.length + 5

section law

variable {nip19 : List Char → Bool} {disputeId : String} {lines : List Line}

/-- The bodies give the rendered lines back. -/
theorem reassembles_chunk {budget : Nat} (positive : 0 < budget) (lines : List Line) :
    Packing.Reassembles newline (lines.map (transcriptLine nip19))
      (chunk positive (lines.map (transcriptLine nip19))) := by
  rw [chunk_eq]
  apply Packing.reassembles_pack
  intro rendered hrendered
  obtain ⟨line, -, rfl⟩ := List.mem_map.mp hrendered
  exact transcriptLine_ne_nil nip19 line

/-- The sizes of the bodies are those the lengths of the lines give. -/
theorem map_length_chunk {budget : Nat} (positive : 0 < budget) (lines : List Line) :
    (chunk positive (lines.map (transcriptLine nip19))).map List.length =
      Packing.sizes budget (lineLengths nip19 lines) := by
  rw [chunk_eq, Packing.map_length_bodies_pack positive, List.map_map]
  rfl

/-- **When a transcript splits as it must.** Exactly when its headers fit. -/
theorem transcriptSplits_iff (positive : 0 < transcriptBudget disputeId lines.length) :
    TranscriptSplits nip19 disputeId lines ↔ HeadersFit nip19 disputeId lines := by
  rw [TranscriptSplits, transcript, HeadersFit]
  by_cases hsingle : (singleTranscript nip19 disputeId lines).length ≤ maxDmChars
  · rw [if_pos hsingle]
    -- One message is enough.
    refine iff_of_true ⟨_, rfl, fun part hpart => ?_, Or.inl rfl⟩ (Or.inl hsingle)
    rw [List.mem_singleton.mp hpart, Marked.length_text]
    exact hsingle
  · rw [if_neg hsingle, dif_pos positive, or_iff_right hsingle, ← map_length_chunk positive]
    set chunks := chunk positive (lines.map (transcriptLine nip19)) with hchunks
    -- A part fits when its body and the digits of its numbers fit what the budget left for them.
    have hpart : ∀ (index : Nat) (body : Marked),
        (transcriptHeader disputeId lines.length (some (index + 1, chunks.length)) ++
          newline :: body).text.length ≤ maxDmChars ↔
        body.length + digits (index + 1) + digits chunks.length ≤
          transcriptBudget disputeId lines.length + 5 := by
      intro index body
      have hheader := length_transcriptHeader disputeId lines.length (index + 1) chunks.length
      rw [Marked.length_text, List.length_append, List.length_cons]
      rw [transcriptBudget] at positive ⊢
      omega
    constructor
    · rintro ⟨parts, heq, hle, -⟩ index size hsize
      rw [← Option.some.inj heq] at hle
      rw [List.getElem?_map, Option.map_eq_some_iff] at hsize
      obtain ⟨body, hbody, rfl⟩ := hsize
      rw [List.length_map]
      refine (hpart index body).mp (hle _ (List.mem_map.mpr ⟨(body, index), ?_, rfl⟩))
      exact List.mk_mem_zipIdx_iff_getElem?.mpr hbody
    · intro hfit
      refine ⟨_, rfl, fun part hmem => ?_, Or.inr ⟨chunks, rfl, reassembles_chunk positive lines⟩⟩
      obtain ⟨⟨body, index⟩, hbody, rfl⟩ := List.mem_map.mp hmem
      have hbody := List.mk_mem_zipIdx_iff_getElem?.mp hbody
      have hfit := hfit index body.length (by rw [List.getElem?_map, hbody]; rfl)
      rw [List.length_map] at hfit
      exact (hpart index body).mpr hfit

/-- **An update splits as it must.** Its header leaves the room it takes. -/
theorem updateSplits (positive : 0 < updateBudget disputeId lines.length) :
    UpdateSplits nip19 disputeId lines := by
  rw [UpdateSplits, update, dif_pos positive]
  refine ⟨_, rfl, fun part hpart => ?_,
    chunk positive (lines.map (transcriptLine nip19)), ?_, reassembles_chunk positive lines⟩
  · obtain ⟨body, hbody, rfl⟩ := List.mem_map.mp hpart
    rw [chunk_eq] at hbody
    have hle := Packing.length_le_of_mem_pack positive body hbody
    rw [Marked.length_text, List.length_append, List.length_cons]
    rw [updateBudget] at positive hle
    omega
  · conv_lhs => rw [← List.zipIdx_map_fst 0 (chunk positive (lines.map (transcriptLine nip19)))]
    rw [List.map_map]
    rfl

/-- **Splitting solver messages.** -/
theorem solver_messages_split_iff (nip19 : List Char → Bool) (disputeId : String)
    (lines : List Line) (transcriptRoom : 0 < transcriptBudget disputeId lines.length)
    (updateRoom : 0 < updateBudget disputeId lines.length) :
    TranscriptSplits nip19 disputeId lines ∧ UpdateSplits nip19 disputeId lines ↔
      HeadersFit nip19 disputeId lines := by
  rw [and_iff_left (updateSplits updateRoom), transcriptSplits_iff transcriptRoom]

end law

/-- A transcript of one short message is a single part. -/
theorem solver_messages_split_short :
    TranscriptSplits (fun _ => false) "d1" [⟨50400, .party .buyer, "hola\nya pagué", 1⟩] ∧
      UpdateSplits (fun _ => false) "d1" [⟨50400, .party .buyer, "hola\nya pagué", 1⟩] :=
  (solver_messages_split_iff (fun _ => false) "d1" _ (by decide +kernel) (by decide +kernel)).mpr
    (Or.inl (by decide +kernel))

/-! ## A part that is too long -/

/-- Text that is no letter, digit or line end is shown as it is. -/
theorem verbatim_of_forall {nip19 : List Char → Bool} {text : List Char}
    (h : ∀ c ∈ text, c.isAlphanum = false ∧ c ≠ '\n') :
    verbatim nip19 (String.ofList text) = text.map fun c => ⟨c, .supplied⟩ := by
  rw [verbatim, redact, String.toList_ofList, String.toList_ofList,
    redactFrom_of_forall fun c hc => (h c hc).1]
  induction text with
  | nil => rfl
  | cons c rest ih =>
    rw [List.flatMap_cons, ih fun c hc => h c (List.mem_cons_of_mem _ hc),
      if_neg (h c List.mem_cons_self).2]
    rfl

/-- A buyer's message of so many dots. -/
def dots (n : Nat) : Line := ⟨0, .party .buyer, String.ofList (List.replicate n '.'), 0⟩

/-- A line of dots has its time and party before it. -/
theorem length_dots (nip19 : List Char → Bool) (n : Nat) :
    (transcriptLine nip19 (dots n)).length = n + 15 := by
  have hdots : ∀ c ∈ List.replicate n '.', c.isAlphanum = false ∧ c ≠ '\n' := by
    intro c hc
    rw [List.eq_of_mem_replicate hc]
    decide
  have hopening : ("[" ++ clock 0 ++ "] " ++ who (.party .buyer) ++ ": ").length = 15 := by
    decide +kernel
  simp only [transcriptLine, dots, verbatim_of_forall hdots, List.length_append, length_composed,
    hopening, List.length_map, List.length_replicate, attachmentsNote, String.length_empty]
  omega

/-- Lines one under the other are as long as they are together, and one more for each but the
last. -/
theorem length_joinLines (first : Marked) (rest : List Marked) :
    (joinLines (first :: rest)).length =
      first.length + (rest.map fun line => line.length + 1).sum := by
  rw [joinLines]
  induction rest generalizing first with
  | nil => simp
  | cons second rest ih =>
    rw [List.intercalate_cons_cons, List.length_append, List.length_append, ih]
    simp
    omega

/-- A dispute id, as texts have it. -/
def someDisputeId : String := "3f2c8a52-9c41-4e0a-b6a1-0d7a4a8a0f11"

/-- A hundred messages each of which fills a part: the last part, `100/100`, has no room left for
its header. -/
theorem solver_messages_split_fails :
    0 < transcriptBudget someDisputeId 100 ∧ 0 < updateBudget someDisputeId 100 ∧
      ¬(TranscriptSplits (fun _ => false) someDisputeId (List.replicate 100 (dots 29888)) ∧
        UpdateSplits (fun _ => false) someDisputeId (List.replicate 100 (dots 29888))) := by
  have hbudget : transcriptBudget someDisputeId 100 = 29903 := by decide +kernel
  refine ⟨by rw [hbudget]; decide, by decide +kernel, fun h => ?_⟩
  have hpositive : 0 < transcriptBudget someDisputeId
      (List.replicate 100 (dots 29888)).length := by
    rw [List.length_replicate, hbudget]
    decide
  rcases (transcriptSplits_iff hpositive).mp h.1 with hsingle | hparts
  · rw [singleTranscript, length_joinLines] at hsingle
    simp [length_dots, maxDmChars] at hsingle
  · have hlengths : lineLengths (fun _ => false) (List.replicate 100 (dots 29888)) =
        List.replicate 100 29903 := by
      rw [lineLengths, List.map_replicate, length_dots]
    have hsizes : Packing.sizes 29903 (List.replicate 100 29903) = List.replicate 100 29903 := by
      decide +kernel
    rw [List.length_replicate, hbudget, hlengths, hsizes] at hparts
    have hlast := hparts 99 29903 (by decide +kernel)
    exact absurd hlast (by decide +kernel)

end SolverText

end Serbero
