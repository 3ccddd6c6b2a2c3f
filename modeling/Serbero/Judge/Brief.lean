import Mathlib.Data.List.ReduceOption
import Std.Data.String.ToNat
import Serbero.Judge.Facts
import Serbero.Judge.State

/-! # The brief request

Quotes for the solver and an advisory reading of the evidence, asked once on the last turn's state.
A quote question offers the short ids of the newest messages its party wrote; an answer's quote is
kept only if it names one of them. -/

namespace Serbero

/-- The option that quotes nothing. -/
def noQuote : String := "none"

/-- Most messages a quote question offers: the newest ones. -/
def maxQuoteOptions : Nat := 100

/-- Whose messages a quote question may choose from. -/
inductive Quoted
  | buyer
  | seller
  /-- Both parties; never Serbero. -/
  | parties
  deriving DecidableEq, Repr

/-- Whether a message by this speaker is offered. -/
def Quoted.includes : Quoted → Speaker → Bool
  | buyer, speaker => speaker == .party .buyer
  | seller, speaker => speaker == .party .seller
  | parties, .party _ => true
  | parties, .serbero _ => false

/-- A quote question: its id, and whose messages it offers. -/
structure Quote where
  id : String
  quoted : Quoted
  deriving DecidableEq, Repr

/-- The quote questions. -/
def quotes : List Quote :=
  [⟨"quote_buyer_payment", .buyer⟩, ⟨"quote_buyer_details", .buyer⟩,
    ⟨"quote_seller_receipt", .seller⟩, ⟨"quote_concern", .parties⟩]

/-- The levels of the evidence question. -/
def evidenceLevels : List String :=
  ["The buyer says they did not pay, or the conversation clearly indicates no payment was made.",
    "The buyer's claim to have paid is vague or contradicted and unsupported by details.",
    "There is not enough information to lean either way.",
    "The buyer gives specific, consistent payment details, but the seller has not confirmed receipt.",
    "The seller confirms the payment arrived."]

/-- The id of the evidence question. -/
def evidenceBalanceId : String := "evidence_balance"

/-- Ids of the newest messages written by `quoted`, in transcript order. -/
def messageIds (state : JudgeState) (quoted : Quoted) : List String :=
  let ids := (state.transcript.filter fun entry => quoted.includes entry.speaker).map (·.id)
  ids.drop (ids.length - maxQuoteOptions)

/-- A quote question over these messages. -/
def quoteQuestion (ids : List String) : Question := .choice (ids ++ [noQuote])

/-- Adds a quote question, unless its party wrote nothing. -/
def addQuote (state : JudgeState) (questions : Std.TreeMap String Question) (quote : Quote) :
    Std.TreeMap String Question :=
  let ids := messageIds state quote.quoted
  if ids.isEmpty then questions else questions.insert quote.id (quoteQuestion ids)

/-- The brief questions over one state, under the identifier of the fixed text. -/
def briefQuestions (version : String) (state : JudgeState) : QuestionSet :=
  { version := version
    questions := (quotes.foldl (addQuote state) ∅).insert evidenceBalanceId
      (.score evidenceLevels) }

/-- The reading of the evidence question: its value from 0 to 1 and the distribution over its
levels. -/
structure EvidenceBalance where
  value : ℚ
  distribution : List ℚ
  deriving DecidableEq, Repr

/-- What the brief shows the solver. Quotes are short message ids. -/
structure Brief where
  quoteBuyerPayment : Option String
  quoteBuyerDetails : Option String
  quoteSellerReceipt : Option String
  quoteConcern : Option String
  evidenceBalance : Option EvidenceBalance
  deriving DecidableEq, Repr

namespace Brief

/-- The brief without quotes or reading. -/
def empty : Brief := ⟨none, none, none, none, none⟩

/-- The short ids a brief quotes. -/
def quoteIds (brief : Brief) : List String :=
  [brief.quoteBuyerPayment, brief.quoteBuyerDetails, brief.quoteSellerReceipt,
    brief.quoteConcern].reduceOption

/-- One quote of a brief: kept only if it is not `none`, its share reaches `fact`, and it is among
the messages the question offers over `state`. -/
def quote (state : JudgeState) (answers : Answers) (thresholds : Thresholds) (id : String) :
    Option String :=
  (quotes.find? fun quote => quote.id == id).bind fun spec =>
    answers[id]?.bind fun answer =>
      answer.winner.filter fun winner =>
        winner != noQuote && decide (thresholds.fact ≤ answer.share winner) &&
          (messageIds state spec.quoted).contains winner

/-- Reads a brief from its answers over `state`, even when they were not checked against this
state's questions. -/
def fromAnswers (state : JudgeState) (answers : Answers) (thresholds : Thresholds) : Brief :=
  { quoteBuyerPayment := quote state answers thresholds "quote_buyer_payment"
    quoteBuyerDetails := quote state answers thresholds "quote_buyer_details"
    quoteSellerReceipt := quote state answers thresholds "quote_seller_receipt"
    quoteConcern := quote state answers thresholds "quote_concern"
    evidenceBalance := match answers[evidenceBalanceId]? with
      | some (.score probabilities) =>
        (Answer.score probabilities).scoreValue.map fun value => ⟨value, probabilities⟩
      | _ => none }

/-- The quotes of a brief come from its four questions. -/
theorem mem_quoteIds_fromAnswers {state : JudgeState} {answers : Answers}
    {thresholds : Thresholds} {shown : String} :
    shown ∈ (fromAnswers state answers thresholds).quoteIds ↔
      ∃ spec ∈ quotes, quote state answers thresholds spec.id = some shown := by
  simp only [quoteIds, List.reduceOption_mem_iff, fromAnswers, quotes, List.mem_cons,
    List.not_mem_nil, or_false, exists_eq_or_imp, exists_eq_left]
  simp only [eq_comm]

/-- **A kept quote.** It wins its question's answer with the fact threshold's share, and is among
the messages the question offers over the state. -/
theorem quote_eq_some_iff {state : JudgeState} {answers : Answers} {thresholds : Thresholds}
    {spec : Quote} (hspec : spec ∈ quotes) {shown : String} :
    quote state answers thresholds spec.id = some shown ↔
      ∃ answer, answers[spec.id]? = some answer ∧ answer.winner = some shown ∧
        shown ≠ noQuote ∧ thresholds.fact ≤ answer.share shown ∧
        shown ∈ messageIds state spec.quoted := by
  have hfind : quotes.find? (fun quote => quote.id == spec.id) = some spec := by
    simp only [quotes, List.mem_cons, List.not_mem_nil, or_false] at hspec
    rcases hspec with rfl | rfl | rfl | rfl <;> decide
  rw [quote, hfind, Option.bind_some, Option.bind_eq_some_iff]
  refine exists_congr fun answer => and_congr_right fun _ => ?_
  rw [Option.filter_eq_some_iff]
  simp only [Bool.and_eq_true, bne_iff_ne, ne_eq, decide_eq_true_eq, List.contains_iff_mem,
    and_assoc]

end Brief

/-! ## The messages a quote question offers -/

section offered

variable {nip19 : List Char → Bool} {session : Session} {openedBy : Initiator}
  {messages : List Message} {maxChars : Nat}

/-- Distinct positions have distinct short ids. -/
theorem shortId_injective : Function.Injective shortId := by
  intro i j h
  have : toString (i + 1) = toString (j + 1) := (String.append_right_inj _).mp h
  have := Nat.repr_inj.mp this
  omega

/-- An offered id is the short id of a message of the transcript that the question includes. -/
theorem mem_messageIds_buildState {quoted : Quoted} {id : String}
    (h : id ∈ messageIds (buildState nip19 session openedBy messages maxChars) quoted) :
    ∃ index message, messages[index]? = some message ∧ id = shortId index ∧
      quoted.includes (transcriptEntry nip19 maxChars message index).speaker = true := by
  have h := List.mem_of_mem_drop h
  obtain ⟨entry, hentry, rfl⟩ := List.mem_map.mp h
  obtain ⟨hentry, hquoted⟩ := List.mem_filter.mp hentry
  rw [transcript_buildState] at hentry
  obtain ⟨⟨message, index⟩, hmem, rfl⟩ := List.mem_map.mp hentry
  exact ⟨index, message, List.mem_zipIdx_iff_getElem?.mp hmem, rfl, hquoted⟩

/-- Every question of the brief set is a quote question that offers some message, or the evidence
question. -/
theorem briefQuestions_getElem? {version : String} {state : JudgeState} {id : String}
    {question : Question} (h : (briefQuestions version state).questions[id]? = some question) :
    (∃ spec ∈ quotes, spec.id = id ∧ question = quoteQuestion (messageIds state spec.quoted)) ∨
      id = evidenceBalanceId := by
  have folded : ∀ (specs : List Quote) (map : Std.TreeMap String Question),
      (specs.foldl (addQuote state) map)[id]? = some question →
      (∃ spec ∈ specs, spec.id = id ∧ question = quoteQuestion (messageIds state spec.quoted)) ∨
        map[id]? = some question := by
    intro specs
    induction specs with
    | nil => exact fun map h => Or.inr h
    | cons spec rest ih =>
      intro map h
      rw [List.foldl_cons] at h
      rcases ih _ h with ⟨other, hother, hid, hq⟩ | hmap
      · exact Or.inl ⟨other, List.mem_cons_of_mem _ hother, hid, hq⟩
      · rw [addQuote] at hmap
        split at hmap
        · exact Or.inr hmap
        · rw [Std.TreeMap.getElem?_insert] at hmap
          split at hmap
          · next heq =>
            rw [Option.some.injEq] at hmap
            exact Or.inl ⟨spec, by simp, Std.LawfulEqCmp.eq_of_compare heq, hmap.symm⟩
          · exact Or.inr hmap
  simp only [briefQuestions, Std.TreeMap.getElem?_insert] at h
  split at h
  · next heq => exact Or.inr (Std.LawfulEqCmp.eq_of_compare heq).symm
  · rcases folded quotes ∅ h with hquote | hempty
    · exact Or.inl hquote
    · exact absurd hempty (by simp)

/-- **A checked quote.** When the answers fit the questions over a state, the winner of a quote
question is among the messages offered there, or nothing. -/
theorem winner_mem_messageIds_of_checkAnswers {version : String} {state : JudgeState}
    {answers : Answers} (checked : checkAnswers (briefQuestions version state) answers = .ok ())
    {spec : Quote} (hspec : spec ∈ quotes) {answer : Answer}
    (hanswer : answers[spec.id]? = some answer) {winner : String}
    (hwinner : answer.winner = some winner) (hquote : winner ≠ noQuote) :
    winner ∈ messageIds state spec.quoted := by
  obtain ⟨question, hquestion, fits⟩ := exists_question_of_checkAnswers checked hanswer
  rcases briefQuestions_getElem? hquestion with ⟨other, hother, hid, rfl⟩ | hevidence
  · have : other = spec := by
      simp only [quotes, List.mem_cons, List.not_mem_nil, or_false] at hspec hother
      rcases hspec with rfl | rfl | rfl | rfl <;> rcases hother with rfl | rfl | rfl | rfl <;>
        first | rfl | exact absurd hid (by decide)
    subst this
    rcases List.mem_append.mp (Answer.winner_mem_options fits hwinner) with hmem | hnone
    · exact hmem
    · exact absurd (List.mem_singleton.mp hnone) hquote
  · simp only [quotes, List.mem_cons, List.not_mem_nil, or_false] at hspec
    rcases hspec with rfl | rfl | rfl | rfl <;> exact absurd hevidence (by decide)

end offered

end Serbero
