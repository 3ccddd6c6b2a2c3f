import Serbero.Catalog.Render
import Serbero.Judge.Brief
import Serbero.Lib.Packing
import Serbero.Policy.Action

/-! # Solver messages

The brief, the transcript and the updates after a hand-off, as texts. Beside each character stands
where it comes from: written by Serbero, one of the two spaces a continuation or a quote is indented
with, or supplied by a party or by the order. Nothing reads that mark; the text sent is
`Marked.text`. -/

namespace Serbero

namespace SolverText

/-! ## Marked text -/

/-- Where a character of a solver message comes from. -/
inductive Origin
  /-- Serbero's own text. -/
  | composed
  /-- The first of the two spaces of an indentation. -/
  | indent
  /-- The second of them. -/
  | indented
  /-- A party's message or the order. -/
  | supplied
  deriving DecidableEq, Repr

/-- A character, and where it comes from. -/
structure Mark where
  char : Char
  origin : Origin
  deriving DecidableEq, Repr

/-- A text with its origins. -/
abbrev Marked := List Mark

/-- The text itself. -/
def Marked.text (marked : Marked) : String := String.ofList (marked.map Mark.char)

/-- Text that Serbero writes. -/
def composed (text : String) : Marked := text.toList.map fun char => ⟨char, .composed⟩

/-- Text that comes from outside. -/
def supplied (text : String) : Marked := text.toList.map fun char => ⟨char, .supplied⟩

/-- The end of a line. -/
def newline : Mark := ⟨'\n', .composed⟩

/-- The indentation of a continuation or a quote. -/
def indentation : Marked := [⟨' ', .indent⟩, ⟨' ', .indented⟩]

/-- Lines of a message, one under the other. -/
def joinLines (lines : List Marked) : Marked := [newline].intercalate lines

/-! ## Small parts -/

/-- `n` with at least two digits. -/
def twoDigits (n : Int) : String :=
  if 0 ≤ n ∧ n < 10 then "0" ++ toString n else toString n

/-- `hh:mm` in UTC. -/
def clock (at_ : Int) : String :=
  let day := at_ % 86400
  twoDigits (day / 3600) ++ ":" ++ twoDigits (day % 3600 / 60)

/-- `14 min`, or `3 h 20 min` from an hour on. -/
def duration (secs : Int) : String :=
  let minutes := max secs 0 / 60
  if minutes < 60 then toString minutes ++ " min"
  else toString (minutes / 60) ++ " h " ++ toString (minutes % 60) ++ " min"

/-- `value` rounded to the nearest integer, a half to the even one. -/
def roundHalfEven (value : ℚ) : Int :=
  let below := value.floor
  if value - below < 1 / 2 then below
  else if 1 / 2 < value - below then below + 1
  else if below % 2 = 0 then below
  else below + 1

/-- `value` with a fixed number of decimal places. -/
def decimal (places : Nat) (value : ℚ) : String :=
  let scaled := roundHalfEven (value * 10 ^ places)
  let digits := toString scaled.natAbs
  let padded := String.ofList (List.replicate (places + 1 - digits.length) '0') ++ digits
  let whole := padded.length - places
  (if scaled < 0 then "-" else "") ++ String.ofList (padded.toList.take whole) ++ "." ++
    String.ofList (padded.toList.drop whole)

/-- A probability, as solvers see it. -/
def p (value : ℚ) : String := decimal 2 value

/-- How many attachments a message has, if any. -/
def attachmentsNote : Nat → String
  | 0 => ""
  | 1 => "  [1 attachment]"
  | n => "  [" ++ toString n ++ " attachments]"

/-- Party text as written, with Nostr identifiers redacted and continuation lines indented under
the first. -/
def verbatim (nip19 : List Char → Bool) (text : String) : Marked :=
  (redact nip19 text).toList.flatMap fun char =>
    if char = '\n' then ⟨'\n', .supplied⟩ :: indentation else [⟨char, .supplied⟩]

/-! ## The brief -/

/-- The order facts Serbero knows; unknown ones are left out. -/
structure Order where
  amount : Option String
  currency : Option String
  paymentMethod : Option String
  /-- How long before the dispute the order was created. -/
  createdBeforeDisputeSecs : Option Int
  deriving DecidableEq, Repr

/-- The judge's reading of the last turn. -/
structure Reading where
  state : JudgeState
  answers : Answers
  facts : Facts
  brief : Brief

/-- Everything the brief shows. -/
structure BriefInput where
  disputeId : String
  subject : Subject
  rounds : Nat
  durationSecs : Int
  order : Order
  /-- The language the buyer is addressed in. -/
  buyerLanguage : String
  /-- The language the seller is addressed in. -/
  sellerLanguage : String
  /-- Absent when the judge was unavailable. -/
  reading : Option Reading
  /-- Messages in the transcript that follows. -/
  transcriptMessages : Nat

/-- The brief's first line. -/
def header (input : BriefInput) : Marked :=
  composed ("Dispute " ++ input.disputeId ++ " · " ++ input.subject.text)

/-- What the dispute is about, with its share. -/
def topic (answers : Answers) : String :=
  match answers["dispute_topic"]? with
  | some answer =>
    let winner := answer.winner.getD "not_yet_clear"
    winner ++ " (" ++ p (answer.share winner) ++ ")"
  | none => "not_yet_clear"

/-- A text without the white space it begins with. -/
def trimStart (marked : Marked) : Marked := marked.dropWhile fun mark => isWhiteSpace mark.char

/-- What the order is about, and when it was created; nothing when nothing is known. The amount is a
number that Serbero renders. -/
def orderLine (order : Order) : Option Marked :=
  let amount := match order.amount, order.currency with
    | some amount, some currency => composed amount ++ composed " " ++ supplied currency
    | _, _ => []
  let what := match order.paymentMethod with
    | some method => trimStart (amount ++ composed " via " ++ supplied method)
    | none => amount
  let created := match order.createdBeforeDisputeSecs with
    | some before => [composed ("created " ++ duration before ++ " before the dispute")]
    | none => []
  let parts := (if what = [] then [] else [what]) ++ created
  if parts = [] then none else some (composed "Order: " ++ (composed " · ").intercalate parts)

/-- The language of each party: one that is not enabled is shown as `other`, never named. -/
def languagesLine (input : BriefInput) : Marked :=
  let language := fun (party : Party) (addressedIn : String) =>
    let other := input.reading.any fun reading =>
      (reading.answers[party.name ++ "_language"]?.bind Answer.winner) == some "other"
    if other then party.name ++ " other (not enabled; addressed in " ++ addressedIn ++ ")"
    else party.name ++ " " ++ addressedIn
  composed ("Languages: " ++ language .buyer input.buyerLanguage ++ " · " ++
    language .seller input.sellerLanguage)

/-- The winning option of a payment question, in words, with its share. -/
def claim (answers : Answers) (id : String) : String :=
  match answers[id]? with
  | none => "has not said"
  | some answer =>
    let winner := answer.winner.getD "not_stated"
    let words := match winner with
      | "says_sent" => "says sent"
      | "says_not_sent" => "says not sent"
      | "says_received" => "says received"
      | "says_received_with_problem" => "says a payment arrived with a problem"
      | "says_not_received" => "says not received"
      | _ => "has not said"
    words ++ " (" ++ p (answer.share winner) ++ ")"

/-- A yes-or-no reading in words, with its probability. -/
def noulLine (answers : Answers) (id yes no : String) : String :=
  let pYes := Facts.pYes answers id
  if 1 / 2 ≤ pYes then yes ++ " (" ++ p pYes ++ ")" else no ++ " (" ++ p (1 - pYes) ++ ")"

/-- The signals the judge reads. -/
def signals (reading : Reading) : String :=
  let human := Party.both.any fun party => (reading.facts.party party).any (·.wantsHuman)
  "Signals: conflict " ++ p (Facts.pYes reading.answers "claims_conflict") ++ " · fraud " ++
    p (Facts.pYes reading.answers "fraud_signal") ++ " · human requested: " ++
    (if human then "yes" else "no")

/-- The reading of the evidence. -/
def evidence (balance : EvidenceBalance) : String :=
  let top := balance.distribution.length - 1
  let levels := balance.distribution.zipIdx.map fun level => toString level.2 ++ ":" ++ p level.1
  "  evidence that fiat was sent: " ++ decimal 1 (balance.value * top) ++ " / " ++ toString top ++
    "  [" ++ String.intercalate " " levels ++ "]"

/-- A message of the state by its short id: its text and its attachment count. -/
def message (state : JudgeState) (id : String) : Option (String × Nat) :=
  (state.transcript.find? fun entry => entry.id == id).map fun entry =>
    (entry.text, entry.attachments.getD 0)

/-- A quoted message: its text verbatim, and its attachment count. -/
def quote (nip19 : List Char → Bool) (state : JudgeState) (id : String) : Option Marked :=
  (message state id).map fun found =>
    indentation ++ composed "\"" ++ verbatim nip19 found.1 ++ composed "\"" ++
      composed (attachmentsNote found.2)

/-- The lines of a reading. -/
def readingLines (nip19 : List Char → Bool) (reading : Reading) : List Marked :=
  let answers := reading.answers
  let buyerQuotes := [reading.brief.quoteBuyerPayment, reading.brief.quoteBuyerDetails].reduceOption
  [composed ("Buyer — " ++ claim answers "buyer_payment" ++ ", " ++
      noulLine answers "buyer_details" "details given" "no details given")] ++
    buyerQuotes.eraseDups.filterMap (quote nip19 reading.state) ++
    [composed ("Seller — " ++ claim answers "seller_receipt" ++ ", " ++
      noulLine answers "seller_checked" "checked account" "has not said they checked")] ++
    reading.brief.quoteSellerReceipt.toList.filterMap (quote nip19 reading.state) ++
    [[], composed (signals reading)] ++
    (reading.brief.quoteConcern.bind (message reading.state)).toList.map (fun found =>
      composed "First to read: \"" ++ verbatim nip19 found.1 ++ composed "\"") ++
    match reading.brief.evidenceBalance with
    | some balance =>
      [[], composed "Reading of the conversation (advisory, not a verdict):",
        composed (evidence balance)]
    | none => []

/-- A text with its first letter in upper case. -/
def capitalize (text : String) : String :=
  match text.toList with
  | [] => ""
  | first :: rest => String.ofList (first.toUpper :: rest)

/-- The lines of the brief. -/
def briefLines (nip19 : List Char → Bool) (input : BriefInput) : List Marked :=
  let summary := "rounds: " ++ toString input.rounds ++ " · duration: " ++
    duration input.durationSecs
  [header input,
    match input.reading with
    | some reading => composed ("Topic: " ++ topic reading.answers ++ " · " ++ summary)
    | none => composed (capitalize summary)] ++
    (orderLine input.order).toList ++
    [languagesLine input, []] ++
    (match input.reading with
      | some reading => readingLines nip19 reading
      | none => [composed "Automated reading unavailable"]) ++
    [[], composed ("Transcript (" ++ toString input.transcriptMessages ++
      " messages) follows in the next message.")]

/-- The brief, sent before the transcript. -/
def brief (nip19 : List Char → Bool) (input : BriefInput) : Marked :=
  joinLines (briefLines nip19 input)

end SolverText

end Serbero
