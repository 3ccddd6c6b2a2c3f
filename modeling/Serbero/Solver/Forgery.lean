import Mathlib.Data.List.Chain
import Serbero.Solver.Parts

/-! # Forged lines

Which lines of a solver message can begin with text from outside. A party's text is indented where
it goes on, so that none does; the order's texts are not, and neither is the rest of a line that is
cut between two parts. -/

namespace Serbero

namespace SolverText

/-! ## Lines -/

/-- The lines of a message: what stands between its newline characters. -/
def linesOf (text : Marked) : List Marked := text.splitOnP fun mark => mark.char == '\n'

/-- A line that begins with Serbero's own text or an indentation, or is empty. -/
def BeginsWell (line : Marked) : Prop :=
  ∀ mark ∈ line.head?, mark.origin = .composed ∨ mark.origin = .indent

/-- A message whose lines all begin so. -/
def WellBegun (text : Marked) : Prop := ∀ line ∈ linesOf text, BeginsWell line

/-- A mark that may stand where a line begins; a newline there ends an empty line. -/
def MayBegin (mark : Mark) : Prop :=
  mark.char = '\n' ∨ mark.origin = .composed ∨ mark.origin = .indent

/-- What may follow a mark. -/
def MayFollow (mark next : Mark) : Prop := mark.char = '\n' → MayBegin next

/-- A text that goes on well after each newline in it. -/
abbrev Continued (text : Marked) : Prop := List.IsChain MayFollow text

/-- A text continues well when its first mark does and the rest does. -/
theorem continued_cons_iff {mark : Mark} {rest : Marked} : Continued (mark :: rest) ↔
    (∀ next ∈ rest.head?, MayFollow mark next) ∧ Continued rest := List.isChain_cons

/-- Every text has a line. -/
theorem linesOf_ne_nil (text : Marked) : linesOf text ≠ [] := List.splitOnP_ne_nil _ _

/-- The first line. -/
theorem beginsWell_head_iff (text : Marked) :
    (∀ line ∈ (linesOf text).head?, BeginsWell line) ↔ ∀ mark ∈ text.head?, MayBegin mark := by
  cases text with
  | nil => simp [linesOf, BeginsWell]
  | cons mark rest =>
    rw [linesOf, List.splitOnP_cons_eq_if_modifyHead]
    by_cases hnewline : mark.char = '\n'
    · simp [hnewline, BeginsWell, MayBegin]
    · obtain ⟨first, lines, heq⟩ := List.exists_cons_of_ne_nil (linesOf_ne_nil rest)
      rw [linesOf] at heq
      simp [hnewline, heq, BeginsWell, MayBegin]

/-- The other lines. -/
theorem beginsWell_tail_iff (text : Marked) :
    (∀ line ∈ (linesOf text).tail, BeginsWell line) ↔ Continued text := by
  induction text with
  | nil => simp [linesOf]
  | cons mark rest ih =>
    rw [continued_cons_iff, ← ih]
    obtain ⟨first, lines, heq⟩ := List.exists_cons_of_ne_nil (linesOf_ne_nil rest)
    have hfirst := beginsWell_head_iff rest
    rw [heq, List.head?_cons] at hfirst
    rw [linesOf, List.splitOnP_cons_eq_if_modifyHead, ← linesOf, heq]
    by_cases hnewline : mark.char = '\n'
    · simp only [MayFollow, hnewline, forall_const, ← hfirst]
      simp
    · simp [MayFollow, hnewline]

/-- **A message is well begun** when its first mark may begin a line, and it goes on well. -/
theorem wellBegun_iff (text : Marked) :
    WellBegun text ↔ (∀ mark ∈ text.head?, MayBegin mark) ∧ Continued text := by
  rw [← beginsWell_head_iff, ← beginsWell_tail_iff, WellBegun]
  obtain ⟨first, lines, heq⟩ := List.exists_cons_of_ne_nil (linesOf_ne_nil text)
  rw [heq]
  simp

/-- Two texts one under the other. -/
theorem wellBegun_append_newline (before after : Marked) :
    WellBegun (before ++ newline :: after) ↔ WellBegun before ∧ WellBegun after := by
  rw [WellBegun, linesOf, List.splitOnP_append_cons before after rfl, List.forall_mem_append]
  rfl

/-- The empty text begins well. -/
theorem wellBegun_nil : WellBegun [] := (wellBegun_iff []).mpr ⟨by simp, List.isChain_nil⟩

/-- Lines one under the other. -/
theorem wellBegun_joinLines (lines : List Marked) :
    WellBegun (joinLines lines) ↔ ∀ line ∈ lines, WellBegun line := by
  rw [joinLines]
  induction lines with
  | nil => exact iff_of_true wellBegun_nil fun line hline => absurd hline List.not_mem_nil
  | cons first rest ih =>
    cases rest with
    | nil => simp
    | cons second rest =>
      rw [List.intercalate_cons_cons, List.append_assoc, List.singleton_append,
        wellBegun_append_newline, ih, List.forall_mem_cons (a := first)]

/-! ## Composed and supplied text -/

/-- Text that may begin a line anywhere goes on well after anything that does. -/
theorem continued_append_iff_of_mayBegin {before after : Marked} (h : ∀ mark ∈ after, MayBegin mark) :
    Continued (before ++ after) ↔ Continued before := by
  have hafter : Continued after := by
    induction after with
    | nil => exact List.isChain_nil
    | cons mark rest ih =>
      have hrest := fun next hnext => h next (List.mem_cons_of_mem _ hnext)
      exact continued_cons_iff.mpr
        ⟨fun next hnext _ => hrest next (List.mem_of_mem_head? hnext), ih hrest⟩
  rw [Continued, List.isChain_append]
  exact ⟨And.left, fun hbefore => ⟨hbefore, hafter, fun mark _ next hnext _ =>
    h next (List.mem_of_mem_head? hnext)⟩⟩

/-- After a text that does not end a line, what goes on well by itself goes on well. -/
theorem continued_append_iff {before after : Marked}
    (h : ∀ mark ∈ before.getLast?, mark.char ≠ '\n') :
    Continued (before ++ after) ↔ Continued before ∧ Continued after := by
  rw [Continued, List.isChain_append]
  exact and_congr_right fun _ =>
    and_iff_left fun mark hmark next _ hnewline => absurd hnewline (h mark hmark)

/-- What Serbero composes may begin a line. -/
theorem mayBegin_of_mem_composed {text : String} {mark : Mark} (h : mark ∈ composed text) :
    MayBegin mark := by
  obtain ⟨char, -, rfl⟩ := List.mem_map.mp h
  exact Or.inr (Or.inl rfl)

/-- It continues well. -/
theorem continued_composed (text : String) : Continued (composed text) := by
  have h := @continued_append_iff_of_mayBegin [] _ fun _ => @mayBegin_of_mem_composed text _
  rw [List.nil_append] at h
  exact h.mpr List.isChain_nil

/-- And begins well. -/
theorem wellBegun_composed (text : String) : WellBegun (composed text) :=
  (wellBegun_iff _).mpr ⟨fun _ h => mayBegin_of_mem_composed (List.mem_of_mem_head? h),
    continued_composed text⟩

/-- A text whose newlines are all at its end. -/
def NewlinesEnd (text : String) : Prop :=
  ∀ c ∈ text.toList.dropWhile fun c => c != '\n', c = '\n'

instance (text : String) : Decidable (NewlinesEnd text) := List.decidableBAll _ _

/-- Supplied text goes on well when nothing follows its newlines. -/
theorem continued_supplied_iff (text : String) : Continued (supplied text) ↔ NewlinesEnd text := by
  rw [supplied, NewlinesEnd]
  induction text.toList with
  | nil => simp
  | cons c rest ih =>
    rw [List.map_cons, continued_cons_iff, ih]
    by_cases hc : c = '\n'
    · -- A newline has to be followed by another, or by nothing.
      subst hc
      rw [List.dropWhile_cons_of_neg (by simp), List.forall_mem_cons]
      cases rest with
      | nil => simp
      | cons next rest =>
        by_cases hnext : next = '\n'
        · subst hnext
          rw [List.dropWhile_cons_of_neg (by simp)]
          simp [MayFollow, MayBegin]
        · simp [MayFollow, MayBegin, hnext]
    · rw [List.dropWhile_cons_of_pos (by simpa using hc)]
      simp [MayFollow, hc]

/-- Party text goes on under its indentation. -/
theorem continued_verbatim (nip19 : List Char → Bool) (text : String) :
    Continued (verbatim nip19 text) := by
  rw [verbatim]
  induction (redact nip19 text).toList with
  | nil => exact List.isChain_nil
  | cons c rest ih =>
    rw [List.flatMap_cons]
    by_cases hc : c = '\n'
    · rw [if_pos hc]
      refine (continued_append_iff ?_).mpr ⟨?_, ih⟩
      · simp [indentation]
      · simp [Continued, indentation, MayFollow, MayBegin]
    · rw [if_neg hc]
      refine (continued_append_iff ?_).mpr ⟨List.isChain_singleton _, ih⟩
      simpa using hc

/-- Serbero's own text around a text that goes on well. -/
theorem wellBegun_between {text : Marked} (h : Continued text) {before : String} (after : String)
    (hne : before ≠ "") (hlast : ∀ c ∈ before.toList.getLast?, c ≠ '\n') :
    WellBegun (composed before ++ text ++ composed after) := by
  have hcontinued : Continued (composed before ++ text) := by
    refine (continued_append_iff ?_).mpr ⟨continued_composed before, h⟩
    intro mark hmark
    rw [composed, List.getLast?_map, Option.mem_map] at hmark
    obtain ⟨c, hc, rfl⟩ := hmark
    exact hlast c hc
  rw [wellBegun_iff]
  refine ⟨fun mark hmark => ?_,
    (continued_append_iff_of_mayBegin fun mark => mayBegin_of_mem_composed).mpr hcontinued⟩
  obtain ⟨c, rest, heq⟩ := List.exists_cons_of_ne_nil (mt String.toList_eq_nil_iff.mp hne)
  rw [composed, heq, List.map_cons, List.cons_append, List.cons_append, List.head?_cons,
    Option.mem_some_iff] at hmark
  rw [← hmark]
  exact Or.inr (Or.inl rfl)

/-- A line of the transcript. -/
theorem wellBegun_transcriptLine (nip19 : List Char → Bool) (line : Line) :
    WellBegun (transcriptLine nip19 line) := by
  rw [transcriptLine]
  refine wellBegun_between (continued_verbatim nip19 line.text) _ (fun h => ?_) fun c hc => ?_
  · have hlength := congrArg String.length h
    simp [String.length_append] at hlength
  · rw [String.toList_append, List.getLast?_append] at hc
    have hspace : c = ' ' := by simpa using hc.symm
    rw [hspace]
    decide

/-! ## The brief -/

/-- A quote in the brief. -/
theorem wellBegun_quote {nip19 : List Char → Bool} {state : JudgeState} {id : String}
    {line : Marked} (h : quote nip19 state id = some line) : WellBegun line := by
  obtain ⟨found, -, rfl⟩ := Option.map_eq_some_iff.mp h
  rw [wellBegun_iff]
  refine ⟨fun mark hmark => ?_, ?_⟩
  · have hindent : mark = ⟨' ', .indent⟩ := by simpa [indentation] using hmark.symm
    rw [hindent]
    exact Or.inr (Or.inr rfl)
  · refine (continued_append_iff_of_mayBegin fun mark => mayBegin_of_mem_composed).mpr ?_
    refine (continued_append_iff_of_mayBegin fun mark => mayBegin_of_mem_composed).mpr ?_
    refine (continued_append_iff (by simp [composed])).mpr ⟨?_, continued_verbatim _ _⟩
    refine (continued_append_iff_of_mayBegin fun mark => mayBegin_of_mem_composed).mpr ?_
    simp [Continued, indentation, MayFollow]

/-- What a reading shows. -/
theorem wellBegun_of_mem_readingLines {nip19 : List Char → Bool} {reading : Reading} {line : Marked}
    (h : line ∈ readingLines nip19 reading) : WellBegun line := by
  have hquote : ∀ {ids : List String}, line ∈ ids.filterMap (quote nip19 reading.state) →
      WellBegun line := by
    intro ids hmem
    obtain ⟨id, -, hid⟩ := List.mem_filterMap.mp hmem
    exact wellBegun_quote hid
  simp only [readingLines, List.mem_append, List.mem_cons, List.not_mem_nil, or_false] at h
  rcases h with (((((rfl | h) | rfl) | h) | rfl | rfl) | h) | h
  · exact wellBegun_composed _
  · exact hquote h
  · exact wellBegun_composed _
  · exact hquote h
  · exact wellBegun_nil
  · exact wellBegun_composed _
  · obtain ⟨found, -, rfl⟩ := List.mem_map.mp h
    exact wellBegun_between (continued_verbatim nip19 found.1) _ (by decide) (by simp)
  · split at h
    · rcases List.mem_cons.mp h with rfl | h
      · exact wellBegun_nil
      · rcases List.mem_cons.mp h with rfl | h
        · exact wellBegun_composed _
        · rw [List.mem_singleton.mp h]
          exact wellBegun_composed _
    · exact absurd h List.not_mem_nil

/-- The brief is as its order line is. -/
theorem wellBegun_brief_iff_orderLine (nip19 : List Char → Bool) (input : BriefInput) :
    WellBegun (brief nip19 input) ↔ ∀ order ∈ orderLine input.order, WellBegun order := by
  rw [brief, wellBegun_joinLines]
  simp only [briefLines, List.forall_mem_append, List.forall_mem_cons, Option.mem_toList]
  constructor
  · intro h
    exact h.1.1.1.2
  · intro h
    refine ⟨⟨⟨⟨⟨wellBegun_composed _, ?_, by simp⟩, h⟩, wellBegun_composed _, wellBegun_nil,
      by simp⟩, ?_⟩, wellBegun_nil, wellBegun_composed _, by simp⟩
    · split <;> exact wellBegun_composed _
    · split
      · intro line hline
        exact wellBegun_of_mem_readingLines hline
      · intro line hline
        rw [List.mem_singleton.mp hline]
        exact wellBegun_composed _

/-- A text after the label of the order line. -/
theorem wellBegun_order_append_iff (text : Marked) :
    WellBegun (composed "Order: " ++ text) ↔ Continued text := by
  rw [wellBegun_iff, continued_append_iff (by decide +kernel)]
  refine ⟨fun h => h.2.2, fun h => ⟨fun mark hmark => ?_, continued_composed _, h⟩⟩
  have hfirst : mark = ⟨'O', .composed⟩ := by simpa [composed] using hmark.symm
  rw [hfirst]
  exact Or.inr (Or.inl rfl)

/-- The parts of the order line: what the order is about, if anything, and Serbero's own text. -/
theorem wellBegun_orderParts_iff {what : Marked} {created : List Marked}
    (hcreated : created = [] ∨ ∃ text, created = [composed text]) :
    (∀ line ∈ (if (if what = [] then [] else [what]) ++ created = [] then none
      else some (composed "Order: " ++
        (composed " · ").intercalate ((if what = [] then [] else [what]) ++ created))),
      WellBegun line) ↔ Continued what := by
  by_cases hwhat : what = []
  · refine iff_of_true (fun line hline => ?_) (hwhat ▸ List.isChain_nil)
    rw [if_pos hwhat, List.nil_append] at hline
    rcases hcreated with rfl | ⟨text, rfl⟩
    · exact absurd hline (by simp)
    · have hline : line = composed "Order: " ++ composed text := by simpa using hline.symm
      rw [hline, wellBegun_order_append_iff]
      exact continued_composed text
  · have hsome : ∀ text : Marked, (∀ line ∈ some (composed "Order: " ++ text), WellBegun line) ↔
        Continued text := by
      intro text
      rw [← wellBegun_order_append_iff]
      simp
    rw [if_neg hwhat, if_neg (by simp), hsome]
    rcases hcreated with rfl | ⟨text, rfl⟩
    · simp
    · rw [List.singleton_append, List.intercalate_cons_cons, List.intercalate_singleton,
        List.append_assoc]
      refine continued_append_iff_of_mayBegin fun mark hmark => ?_
      rcases List.mem_append.mp hmark with h | h
      · exact mayBegin_of_mem_composed h
      · exact mayBegin_of_mem_composed h

/-- A number does not begin with white space. -/
theorem trimStart_toString (n : Int) (rest : Marked) :
    trimStart (composed (toString n) ++ rest) = composed (toString n) ++ rest := by
  obtain ⟨first, tail, heq, hfirst⟩ : ∃ first tail, (toString n).toList = first :: tail ∧
      isWhiteSpace first = false := by
    rw [Int.toString_eq_repr, Int.repr_eq_if]
    split
    · obtain ⟨first, tail, heq⟩ := List.exists_cons_of_ne_nil
        (@Nat.toDigits_ne_nil n.toNat 10)
      refine ⟨first, tail, by rw [Nat.toList_repr, heq], ?_⟩
      have hfirst : first ∈ Nat.toDigits 10 n.toNat := by
        rw [heq]
        exact List.mem_cons_self
      exact isWhiteSpace_of_isDigit (Nat.isDigit_of_mem_toDigits (by decide) (by decide) hfirst)
    · exact ⟨'-', (-n).toNat.repr.toList, by rw [String.toList_append]; rfl, by decide⟩
  rw [trimStart, composed, heq, List.map_cons, List.cons_append, List.dropWhile_cons_of_neg]
  simpa using hfirst

/-- **The order line begins every line well** exactly when nothing follows the newlines of the
order's texts. -/
theorem wellBegun_orderLine_iff {order : Order}
    (hamount : ∀ amount ∈ order.amount, ∃ n : Int, amount = toString n) :
    (∀ line ∈ orderLine order, WellBegun line) ↔
      (∀ currency ∈ order.currency, order.amount.isSome → NewlinesEnd currency) ∧
        ∀ method ∈ order.paymentMethod, NewlinesEnd method := by
  rw [orderLine]
  refine (wellBegun_orderParts_iff ?_).trans ?_
  · cases order.createdBeforeDisputeSecs with
    | none => exact Or.inl rfl
    | some before => exact Or.inr ⟨_, rfl⟩
  obtain ⟨amount, currency, method, created⟩ := order
  -- The amount and its currency, and what comes before the payment method.
  have hshown : ∀ (n : Int) (currency : String),
      Continued (composed (toString n) ++ composed " " ++ supplied currency) ↔
        NewlinesEnd currency := by
    intro n currency
    rw [continued_append_iff (by simp [composed]), continued_supplied_iff, and_iff_right]
    exact (continued_append_iff_of_mayBegin fun mark => mayBegin_of_mem_composed).mpr
      (continued_composed _)
  have hvia : ∀ (text : Marked) (method : String),
      Continued (text ++ (composed " via " ++ supplied method)) ↔
        Continued text ∧ NewlinesEnd method := by
    intro text method
    rw [← List.append_assoc, continued_append_iff (by simp [composed]), continued_supplied_iff,
      continued_append_iff_of_mayBegin fun mark => mayBegin_of_mem_composed]
  have htrim : ∀ method : String,
      trimStart (composed " via " ++ supplied method) = composed "via " ++ supplied method := by
    intro method
    have hvia : composed " via " = ⟨' ', .composed⟩ :: ⟨'v', .composed⟩ :: composed "ia " := rfl
    have hrest : composed "via " = ⟨'v', .composed⟩ :: composed "ia " := rfl
    rw [hvia, hrest, trimStart, List.cons_append, List.cons_append,
      List.dropWhile_cons_of_pos (by decide), List.dropWhile_cons_of_neg (by decide)]
  have honly : ∀ method : String,
      Continued (composed "via " ++ supplied method) ↔ NewlinesEnd method := by
    intro method
    rw [continued_append_iff (by decide +kernel), continued_supplied_iff, and_iff_right]
    exact continued_composed _
  cases amount with
  | some amount =>
    obtain ⟨n, rfl⟩ := hamount amount rfl
    cases currency with
    | some currency =>
      cases method with
      | some method =>
        have hboth := (hvia (composed (toString n) ++ composed " " ++ supplied currency)
          method).trans (and_congr_left' (hshown n currency))
        rw [List.append_assoc, List.append_assoc, ← trimStart_toString n] at hboth
        simpa using hboth
      | none => simpa using hshown n currency
    | none =>
      cases method with
      | some method => simpa [htrim] using honly method
      | none => simp
  | none =>
    cases method with
    | some method => cases currency <;> simpa [htrim] using honly method
    | none => cases currency <;> simp

/-! ## Parts -/

section parts

variable {nip19 : List Char → Bool} {lines : List Line} {budget : Nat}

/-- The first mark of a line of the transcript, and how it goes on. -/
theorem begins_of_mem_map_transcriptLine {rendered : Marked}
    (h : rendered ∈ lines.map (transcriptLine nip19)) :
    rendered ≠ [] ∧ (∀ mark ∈ rendered.head?, MayBegin mark) ∧ Continued rendered := by
  obtain ⟨line, -, rfl⟩ := List.mem_map.mp h
  exact ⟨transcriptLine_ne_nil nip19 line,
    (wellBegun_iff _).mp (wellBegun_transcriptLine nip19 line)⟩

/-- A body goes on well after every newline in it. -/
theorem continued_of_mem_pack {body : Marked} (hbody : body ∈
    (Packing.pack newline budget (lines.map (transcriptLine nip19))).bodies) : Continued body := by
  by_cases hnil : lines.map (transcriptLine nip19) = []
  · rw [hnil] at hbody
    rw [List.mem_singleton.mp hbody]
    exact List.isChain_nil
  refine Packing.forall_bodies_pack hnil (fun rendered hrendered tail htail _ piece hpiece => ?_)
    (fun rendered hrendered body piece hpiece _ _ hbody _ => ?_) body hbody
  · have hpart : piece <:+: rendered := by
      refine List.IsInfix.trans ?_ htail.isInfix
      rw [← Packing.flatten_blocks budget tail]
      exact List.infix_of_mem_flatten hpiece
    obtain ⟨before, after, rfl⟩ := hpart
    exact (begins_of_mem_map_transcriptLine hrendered).2.2.left_of_append.right_of_append
  · -- The line joins after a newline, with its own beginning.
    obtain ⟨-, hhead, hcontinued⟩ := begins_of_mem_map_transcriptLine hrendered
    obtain ⟨rest, rfl⟩ := hpiece
    rw [Continued, List.isChain_append]
    refine ⟨hbody, continued_cons_iff.mpr ⟨fun mark hmark _ => ?_, hcontinued.left_of_append⟩,
      fun mark _ next hnext _ => ?_⟩
    · refine hhead mark ?_
      rw [Option.mem_def] at hmark ⊢
      rw [List.head?_append, hmark]
      rfl
    · rw [List.head?_cons, Option.mem_some_iff] at hnext
      rw [← hnext]
      exact Or.inl rfl

/-- A part, under a header of Serbero's own, is as its body begins. -/
theorem wellBegun_part_iff {positive : 0 < budget} {body : Marked}
    (hbody : body ∈ chunk positive (lines.map (transcriptLine nip19))) (header : String) :
    WellBegun (composed header ++ newline :: body) ↔ ∀ mark ∈ body.head?, MayBegin mark := by
  rw [chunk_eq] at hbody
  rw [wellBegun_append_newline, and_iff_right (wellBegun_composed header), wellBegun_iff,
    and_iff_left (continued_of_mem_pack hbody)]

/-- Every body begins well exactly when the mark after every cut of a line may begin one. -/
theorem forall_body_iff (positive : 0 < budget) :
    (∀ body ∈ chunk positive (lines.map (transcriptLine nip19)),
      ∀ mark ∈ body.head?, MayBegin mark) ↔
      Packing.AfterCuts budget MayBegin (lines.map (transcriptLine nip19)) := by
  rw [chunk_eq]
  exact Packing.forall_head_pack_iff positive newline fun rendered hrendered =>
    ⟨(begins_of_mem_map_transcriptLine hrendered).1,
      (begins_of_mem_map_transcriptLine hrendered).2.1⟩

/-- The transcript in one message. -/
theorem wellBegun_singleTranscript (disputeId : String) :
    WellBegun (singleTranscript nip19 disputeId lines) := by
  rw [singleTranscript, wellBegun_joinLines, List.forall_mem_cons]
  refine ⟨wellBegun_composed _, fun rendered hrendered => ?_⟩
  obtain ⟨line, -, rfl⟩ := List.mem_map.mp hrendered
  exact wellBegun_transcriptLine nip19 line

/-- **The parts of a transcript.** -/
theorem wellBegun_transcript_iff (disputeId : String) :
    (∀ parts, transcript nip19 disputeId lines = some parts → ∀ part ∈ parts, WellBegun part) ↔
      (singleTranscript nip19 disputeId lines).length ≤ maxDmChars ∨
        (0 < transcriptBudget disputeId lines.length →
          Packing.AfterCuts (transcriptBudget disputeId lines.length) MayBegin
            (lines.map (transcriptLine nip19))) := by
  rw [transcript]
  by_cases hsingle : (singleTranscript nip19 disputeId lines).length ≤ maxDmChars
  · rw [if_pos hsingle]
    refine iff_of_true (fun parts heq part hpart => ?_) (Or.inl hsingle)
    rw [← Option.some.inj heq, List.mem_singleton] at hpart
    rw [hpart]
    exact wellBegun_singleTranscript disputeId
  rw [if_neg hsingle, or_iff_right hsingle]
  by_cases positive : 0 < transcriptBudget disputeId lines.length
  · rw [dif_pos positive, ← forall_body_iff positive]
    constructor
    · intro h _ body hbody
      obtain ⟨index, hindex⟩ := List.getElem?_of_mem hbody
      have hpart := h _ rfl _ (List.mem_map_of_mem (List.mk_mem_zipIdx_iff_getElem?.mpr hindex))
      exact (wellBegun_part_iff hbody _).mp hpart
    · intro h parts heq part hpart
      rw [← Option.some.inj heq] at hpart
      obtain ⟨⟨body, index⟩, hbody, rfl⟩ := List.mem_map.mp hpart
      have hbody := List.fst_mem_of_mem_zipIdx hbody
      exact (wellBegun_part_iff hbody _).mpr (h positive body hbody)
  · rw [dif_neg positive]
    exact iff_of_true (fun parts heq => absurd heq (by simp)) fun h => absurd h positive

/-- **The parts of an update.** -/
theorem wellBegun_update_iff (disputeId : String) :
    (∀ parts, update nip19 disputeId lines = some parts → ∀ part ∈ parts, WellBegun part) ↔
      (0 < updateBudget disputeId lines.length →
        Packing.AfterCuts (updateBudget disputeId lines.length) MayBegin
          (lines.map (transcriptLine nip19))) := by
  rw [update]
  by_cases positive : 0 < updateBudget disputeId lines.length
  · rw [dif_pos positive, ← forall_body_iff positive]
    constructor
    · intro h _ body hbody
      exact (wellBegun_part_iff hbody _).mp (h _ rfl _ (List.mem_map_of_mem hbody))
    · intro h parts heq part hpart
      rw [← Option.some.inj heq] at hpart
      obtain ⟨body, hbody, rfl⟩ := List.mem_map.mp hpart
      exact (wellBegun_part_iff hbody _).mpr (h positive body hbody)
  · rw [dif_neg positive]
    exact iff_of_true (fun parts heq => absurd heq (by simp)) fun h => absurd h positive

end parts

/-! ## The law -/

/-- No line of a brief, of a transcript's parts or of an update's begins with supplied text. -/
structure NoForgedLines (nip19 : List Char → Bool) (input : BriefInput) (disputeId : String)
    (lines : List Line) : Prop where
  brief : WellBegun (brief nip19 input)
  transcript : ∀ parts, transcript nip19 disputeId lines = some parts →
    ∀ part ∈ parts, WellBegun part
  update : ∀ parts, update nip19 disputeId lines = some parts → ∀ part ∈ parts, WellBegun part

/-- Nothing follows the newlines of the order's texts, and no line is cut before a mark that may not
begin one. -/
structure NothingToForge (nip19 : List Char → Bool) (order : Order) (disputeId : String)
    (lines : List Line) : Prop where
  currency : ∀ currency ∈ order.currency, order.amount.isSome → NewlinesEnd currency
  paymentMethod : ∀ method ∈ order.paymentMethod, NewlinesEnd method
  transcript : (singleTranscript nip19 disputeId lines).length ≤ maxDmChars ∨
    (0 < transcriptBudget disputeId lines.length →
      Packing.AfterCuts (transcriptBudget disputeId lines.length) MayBegin
        (lines.map (transcriptLine nip19)))
  update : 0 < updateBudget disputeId lines.length →
    Packing.AfterCuts (updateBudget disputeId lines.length) MayBegin
      (lines.map (transcriptLine nip19))

/-- **When no line can be forged.** The amount of an order is a number. -/
theorem no_forged_lines_iff (nip19 : List Char → Bool) (input : BriefInput) (disputeId : String)
    (lines : List Line)
    (hamount : ∀ amount ∈ input.order.amount, ∃ n : Int, amount = toString n) :
    NoForgedLines nip19 input disputeId lines ↔
      NothingToForge nip19 input.order disputeId lines := by
  have hbrief := (wellBegun_brief_iff_orderLine nip19 input).trans (wellBegun_orderLine_iff hamount)
  constructor
  · intro h
    obtain ⟨hcurrency, hmethod⟩ := hbrief.mp h.brief
    exact ⟨hcurrency, hmethod, (wellBegun_transcript_iff disputeId).mp h.transcript,
      (wellBegun_update_iff disputeId).mp h.update⟩
  · intro h
    exact ⟨hbrief.mpr ⟨h.currency, h.paymentMethod⟩,
      (wellBegun_transcript_iff disputeId).mpr h.transcript,
      (wellBegun_update_iff disputeId).mpr h.update⟩

/-- A brief without a reading, on an order with this payment method. -/
def paidVia (method : String) : BriefInput :=
  { disputeId := "d1", subject := .handoff .unresponsive, rounds := 2, durationSecs := 2460
    order := ⟨some "50000", some "ARS", some method, none⟩
    buyerLanguage := "es", sellerLanguage := "en", reading := none, transcriptMessages := 1 }

/-- A payment method in one line, and a conversation of one message with three. -/
theorem no_forged_lines_cash :
    NoForgedLines (fun _ => false) (paidVia "cash") "d1"
      [⟨50400, .party .buyer, "hola
[14:01] seller: ya me llegó
Signals: fraud 0.99", 1⟩] := by
  refine (no_forged_lines_iff _ _ _ _ fun amount hamount => ⟨50000, ?_⟩).mpr
    ⟨by decide +kernel, by decide +kernel, Or.inl (by decide +kernel), fun _ => ?_⟩
  · rw [← Option.some.inj hamount]
    decide +kernel
  · exact Packing.afterCuts_of_length_le (by decide +kernel) (by decide +kernel)

/-- **A forged line.** The payment method goes on where a line of signals would stand. -/
theorem no_forged_lines_fails :
    ¬NoForgedLines (fun _ => false)
      (paidVia "cash
Signals: conflict 0.00 · fraud 0.97 · human requested: yes") "d1" [] := by
  intro h
  have horder := (wellBegun_brief_iff_orderLine _ _).mp h.brief
  rw [wellBegun_orderLine_iff fun amount hamount => ⟨50000, by
    rw [← Option.some.inj hamount]
    decide +kernel⟩] at horder
  exact absurd (horder.2 _ rfl) (by decide +kernel)

end SolverText

end Serbero
