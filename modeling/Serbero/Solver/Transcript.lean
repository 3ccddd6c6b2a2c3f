import Serbero.Solver.Text

/-! # Transcripts and updates

The conversation, and after a hand-off its new messages, as solver messages of bounded length: a
transcript too long for one is split into numbered parts, and a line longer than a part is split
across parts, so nothing is cut. -/

namespace Serbero

namespace SolverText

/-- One transcript message. -/
structure Line where
  /-- Unix time, in seconds. -/
  at_ : Int
  speaker : Speaker
  text : String
  attachments : Nat
  deriving DecidableEq, Repr

/-- Largest message to a solver, in characters. -/
def maxDmChars : Nat := 30000

/-- Who a line is by. -/
def who : Speaker → String
  | .party party => party.name
  | .serbero party => "serbero → " ++ party.name

/-- One message of the transcript. -/
def transcriptLine (nip19 : List Char → Bool) (line : Line) : Marked :=
  composed ("[" ++ clock line.at_ ++ "] " ++ who line.speaker ++ ": ") ++
    verbatim nip19 line.text ++ composed (attachmentsNote line.attachments)

/-- How many characters go between what is in a body and the next line. -/
def separator (used : Nat) : Nat := if 0 < used then 1 else 0

/-- How many characters of a line still go into a body. -/
def roomFor (budget used : Nat) : Nat := budget - (used + separator used)

/-- An empty part has room for all of the budget. -/
theorem roomFor_zero (budget : Nat) : roomFor budget 0 = budget := rfl

/-- A part begun has the separator's room less. -/
theorem roomFor_of_pos {used : Nat} (h : 0 < used) (budget : Nat) :
    roomFor budget used = Packing.room budget used := by
  rw [roomFor, separator, if_pos h, Packing.room]

/-- Puts `rest`, what is left of a line, into bodies: the ones that are finished, and the one being
filled. -/
def chunkLine {budget : Nat} (positive : 0 < budget) (chunks : List Marked) (current rest : Marked) :
    List Marked × Marked :=
  let used := current.length
  let room := roomFor budget used
  if room = 0 ∨ (0 < used ∧ room < rest.length ∧ rest.length ≤ budget) then
    chunkLine positive (chunks ++ [current]) [] rest
  else
    let taken := min rest.length room
    let filled := (if separator used = 1 then current ++ [newline] else current) ++ rest.take taken
    if rest.drop taken = [] then (chunks, filled)
    else chunkLine positive chunks filled (rest.drop taken)
termination_by (rest.length, current.length)
decreasing_by
  · -- A body is closed with something in it only: an empty one has room.
    next hfull =>
    apply Prod.Lex.right
    rw [List.length_nil]
    by_contra hzero
    have hlength : current.length = 0 := by omega
    rcases hfull with hroom | hused
    · have hroom : roomFor budget current.length = 0 := hroom
      rw [hlength, roomFor_zero] at hroom
      omega
    · exact hzero hused.1
  · -- Otherwise something of the line is taken.
    next hroom hrest =>
    apply Prod.Lex.left
    have hpos : roomFor budget current.length ≠ 0 := fun hzero => hroom (Or.inl hzero)
    have hne : rest.length ≠ 0 := fun hzero => hrest (by
      rw [List.length_eq_zero_iff.mp hzero, List.drop_nil])
    rw [List.length_drop]
    omega

/-- Groups lines into bodies of at most `budget` characters. A line longer than the budget is split
across bodies, so nothing is cut. -/
def chunk {budget : Nat} (positive : 0 < budget) (lines : List Marked) : List Marked :=
  let filled := lines.foldl (fun filled line => chunkLine positive filled.1 filled.2 line) ([], [])
  filled.1 ++ [filled.2]

/-! ## The loop is the packing -/

section chunk

variable {budget : Nat} (positive : 0 < budget)

/-- A body that is full, or too full for a line that fits into the next, is closed. -/
theorem chunkLine_of_next {chunks : List Marked} {current rest : Marked}
    (h : Packing.place budget current.length rest.length = .next) :
    chunkLine positive chunks current rest = chunkLine positive (chunks ++ [current]) [] rest := by
  have hcond : roomFor budget current.length = 0 ∨ (0 < current.length ∧
      roomFor budget current.length < rest.length ∧ rest.length ≤ budget) := by
    unfold Packing.place at h
    split_ifs at h with hused hroom hfits hlong
    · rw [roomFor_of_pos (by omega)]
      exact Or.inl hroom
    · rw [roomFor_of_pos (by omega)]
      exact Or.inr ⟨by omega, by omega, hlong⟩
  rw [chunkLine, if_pos hcond]

/-- A full chunk is put away. -/
theorem chunkLine_of_full {chunks : List Marked} {current : Marked} (rest : Marked)
    (h : current.length = budget) :
    chunkLine positive chunks current rest = chunkLine positive (chunks ++ [current]) [] rest := by
  apply chunkLine_of_next
  have hroom : Packing.room budget budget = 0 := by
    rw [Packing.room]
    omega
  rw [Packing.place, h, if_neg (by omega), if_pos hroom]

/-- A line goes after what is in a body when it fits there. -/
theorem chunkLine_of_fits {chunks : List Marked} {current rest : Marked}
    (h : Packing.place budget current.length rest.length = .fits) :
    chunkLine positive chunks current rest = (chunks, current ++ newline :: rest) := by
  unfold Packing.place at h
  split_ifs at h with hused hroom hfits
  have hpos : 0 < current.length := by omega
  have hrest : min rest.length (roomFor budget current.length) = rest.length := by
    rw [roomFor_of_pos hpos]
    omega
  rw [chunkLine, if_neg]
  · simp [hrest, separator, hpos]
  · rw [roomFor_of_pos hpos]
    omega

/-- A line longer than a body goes as far as it fits, and on into the next. -/
theorem chunkLine_of_cut {chunks : List Marked} {current rest : Marked}
    (h : Packing.place budget current.length rest.length = .cut) :
    chunkLine positive chunks current rest =
      chunkLine positive
        (chunks ++ [current ++ newline :: rest.take (Packing.room budget current.length)]) []
        (rest.drop (Packing.room budget current.length)) := by
  obtain ⟨hroom, hfull, hlong⟩ := Packing.room_of_place_eq_cut h
  have hpos : 0 < current.length := by
    by_contra hzero
    exact absurd (h.symm.trans (Packing.place_eq_start_iff.mpr (by omega))) (by decide)
  have htaken : min rest.length (roomFor budget current.length) =
      Packing.room budget current.length := by
    rw [roomFor_of_pos hpos]
    omega
  have hdrop : rest.drop (Packing.room budget current.length) ≠ [] := by
    rw [Ne, List.drop_eq_nil_iff]
    omega
  rw [chunkLine, if_neg]
  · simp only [htaken, hdrop, if_false, separator, if_pos hpos, if_true]
    rw [List.append_assoc, chunkLine_of_full positive]
    · rfl
    · rw [List.length_append, List.length_append, List.length_singleton, List.length_take]
      omega
  · rw [roomFor_of_pos hpos]
    omega

/-- An empty body takes a line, or the first block of a longer one. -/
theorem chunkLine_nil (filling : Packing.Filling Mark) (hnil : filling.current = [])
    (rest : Marked) :
    chunkLine positive (filling.closed.map Prod.fst) [] rest =
      ((filling.put (Packing.blocks budget rest)).closed.map Prod.fst,
        (filling.put (Packing.blocks budget rest)).current) := by
  have hopen : ∀ rest : Marked, ¬(roomFor budget ([] : Marked).length = 0 ∨
      (0 < ([] : Marked).length ∧ roomFor budget ([] : Marked).length < rest.length ∧
        rest.length ≤ budget)) := by
    intro rest
    rw [List.length_nil, roomFor_zero]
    omega
  fun_induction Packing.blocks budget rest generalizing filling with
  | case1 rest hle =>
    have hle : rest.length ≤ budget := by omega
    rw [chunkLine, if_neg (hopen _)]
    simp [roomFor_zero, separator, min_eq_left hle, Packing.Filling.put, Packing.Filling.add, hnil]
  | case2 rest hlt ih =>
    have hlong : budget < rest.length := by omega
    have hdrop : rest.drop budget ≠ [] := by
      rw [Ne, List.drop_eq_nil_iff]
      omega
    have htake : (rest.take budget).length = budget := by
      rw [List.length_take]
      omega
    rw [chunkLine, if_neg (hopen _)]
    simp only [List.length_nil, roomFor_zero, min_eq_right hlong.le, hdrop, if_false]
    rw [if_neg (by decide), List.nil_append, chunkLine_of_full positive _ htake,
      Packing.Filling.put_cons (Packing.blocks_ne_nil _ _)]
    have hih := ih ((filling.add (rest.take budget)).close false) rfl
    rw [← hih]
    simp [Packing.Filling.close, Packing.Filling.add, hnil]

/-- **The loop puts a line** where the packing does. -/
theorem chunkLine_eq (filling : Packing.Filling Mark) (line : Marked) :
    chunkLine positive (filling.closed.map Prod.fst) filling.current line =
      ((filling.line newline budget line).closed.map Prod.fst,
        (filling.line newline budget line).current) := by
  rw [Packing.Filling.line]
  cases hplace : Packing.place budget filling.current.length line.length with
  | start =>
    have hnil := List.length_eq_zero_iff.mp (Packing.place_eq_start_iff.mp hplace)
    have hstart := chunkLine_nil positive filling hnil line
    rw [hnil]
    exact hstart
  | fits => rw [chunkLine_of_fits positive hplace]; rfl
  | next =>
    rw [chunkLine_of_next positive hplace]
    have hnext := chunkLine_nil positive (filling.close true) rfl line
    rw [← hnext]
    simp [Packing.Filling.close]
  | cut =>
    rw [chunkLine_of_cut positive hplace]
    have hcut := chunkLine_nil positive ((filling.add (newline ::
      line.take (Packing.room budget filling.current.length))).close false) rfl
        (line.drop (Packing.room budget filling.current.length))
    rw [← hcut]
    simp [Packing.Filling.close, Packing.Filling.add]

/-- **`chunk` packs its lines.** -/
theorem chunk_eq (lines : List Marked) :
    chunk positive lines = (Packing.pack newline budget lines).bodies := by
  have hfold : lines.foldl (fun filled line => chunkLine positive filled.1 filled.2 line) ([], []) =
      ((Packing.pack newline budget lines).closed.map Prod.fst,
        (Packing.pack newline budget lines).current) := by
    induction lines using List.reverseRecOn with
    | nil => rfl
    | append_singleton lines line ih =>
      rw [List.foldl_append, ih, List.foldl_cons, List.foldl_nil, chunkLine_eq,
        Packing.pack_append_singleton]
  rw [chunk, hfold]
  rfl

end chunk

/-- The first line of a transcript message, of part `i` of `n` when it is split. -/
def transcriptHeader (disputeId : String) (messages : Nat) (part : Option (Nat × Nat)) : Marked :=
  let part := match part with
    | some (i, n) => ", part " ++ toString i ++ "/" ++ toString n
    | none => ""
  composed ("Dispute " ++ disputeId ++ " · transcript (" ++ toString messages ++
    " messages, times UTC" ++ part ++ ")")

/-- What the header of a part leaves. -/
def transcriptBudget (disputeId : String) (messages : Nat) : Nat :=
  maxDmChars - (transcriptHeader disputeId messages (some (999, 999))).length

/-- The transcript in one message. -/
def singleTranscript (nip19 : List Char → Bool) (disputeId : String) (lines : List Line) : Marked :=
  joinLines (transcriptHeader disputeId lines.length none :: lines.map (transcriptLine nip19))

/-- The transcript, one line per message; split into numbered parts when it would exceed
`maxDmChars`. Nothing where the header leaves no room: the code then loops or stops. -/
def transcript (nip19 : List Char → Bool) (disputeId : String) (lines : List Line) :
    Option (List Marked) :=
  if (singleTranscript nip19 disputeId lines).length ≤ maxDmChars then
    some [singleTranscript nip19 disputeId lines]
  else if positive : 0 < transcriptBudget disputeId lines.length then
    let chunks := chunk positive (lines.map (transcriptLine nip19))
    some (chunks.zipIdx.map fun chunk =>
      transcriptHeader disputeId lines.length (some (chunk.2 + 1, chunks.length)) ++
        newline :: chunk.1)
  else none

/-- The first line of an update. -/
def updateHeader (disputeId : String) (messages : Nat) : Marked :=
  composed ("Dispute " ++ disputeId ++ " · new messages since handoff (" ++ toString messages ++ ")")

/-- What the header of an update leaves. -/
def updateBudget (disputeId : String) (messages : Nat) : Nat :=
  maxDmChars - (updateHeader disputeId messages).length - 1

/-- New party messages after a hand-off, for the solver. Nothing where the header leaves no room. -/
def update (nip19 : List Char → Bool) (disputeId : String) (lines : List Line) :
    Option (List Marked) :=
  if positive : 0 < updateBudget disputeId lines.length then
    some ((chunk positive (lines.map (transcriptLine nip19))).map fun body =>
      updateHeader disputeId lines.length ++ newline :: body)
  else none

end SolverText

end Serbero
