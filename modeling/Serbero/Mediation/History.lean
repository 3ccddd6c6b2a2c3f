import Serbero.Lib.LastOf
import Serbero.Policy.Next
import Serbero.Store.Rows

/-! # What Serbero already sent each party

The policy's history, read from the stored messages in arrival order (the row id): an inbound
message's `createdAt` comes from the party's clock and may be skewed. -/

namespace Serbero

open LastOf

/-- The messages of a session in arrival order. -/
def arrivalOrder (messages : List Message) : List Message :=
  messages.insertionSort fun a b => a.id ≤ b.id

/-- The templates Serbero sent a party, in any language. -/
def askedOf (messages : List Message) (party : Party) : List Template :=
  (messages.filter (·.isTo party)).filterMap (·.templateId)

/-- A party's last template, last question, and whether that question still awaits an answer.
`languageChanged` is left false: it depends on the current turn. -/
def partyHistory (messages : List Message) (party : Party) : PartyHistory :=
  let arrived := (arrivalOrder messages).zipIdx
  let lastTemplate := lastSome (fun entry : Message × Nat =>
    if entry.1.isTo party then entry.1.templateId else none) arrived
  let lastQuestion := lastSome (fun entry : Message × Nat =>
    if entry.1.isTo party then
      (entry.1.templateId.filter Template.isQuestion).map fun template => (entry.2, template)
    else none) arrived
  let lastReply := lastSome (fun entry : Message × Nat =>
    if entry.1.isFrom party then some entry.2 else none) arrived
  { lastTemplate := lastTemplate
    lastQuestion := lastQuestion.map Prod.snd
    outstanding := lastQuestion.any fun asked => lastReply.all fun replied => replied < asked.1
    languageChanged := false }

/-- A party's last question is one. -/
theorem isQuestion_lastQuestion {messages : List Message} {party : Party} {question : Template}
    (h : (partyHistory messages party).lastQuestion = some question) :
    question.isQuestion = true := by
  obtain ⟨asked, hasked, rfl⟩ := Option.map_eq_some_iff.mp h
  obtain ⟨entry, -, hentry⟩ := List.mem_filterMap.mp (List.mem_of_getLast? hasked)
  split at hentry
  · obtain ⟨template, htemplate, rfl⟩ := Option.map_eq_some_iff.mp hentry
    exact (Option.filter_eq_some_iff.mp htemplate).2
  · cases hentry

/-- The templates sent so far and both parties' histories. -/
def fromMessages (messages : List Message) : Asked × PartyHistory × PartyHistory :=
  (⟨askedOf messages .buyer, askedOf messages .seller⟩,
    partyHistory messages .buyer, partyHistory messages .seller)

/-- Serbero wrote to the party before, but never in `lang`: the party read the intro only in
another language. -/
def needsIntro (messages : List Message) (party : Party) (lang : String) : Bool :=
  let sent := messages.filter (·.isTo party)
  !sent.isEmpty && sent.all fun message => message.lang != some lang

end Serbero
