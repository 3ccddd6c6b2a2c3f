import Mathlib.Data.List.Induction

/-! # Packing lines into bodies of bounded size

Lines are put one after another into bodies of at most `budget` entries, with a separator between
two lines of one body. A line that does not fit into what is left of a body begins the next one; a
line longer than a whole body is cut. -/

namespace Packing

variable {α β : Type*}

/-! ## Bodies -/

/-- The bodies closed so far, each with whether it ends where a line does, and the one being
filled. -/
structure Filling (α : Type*) where
  closed : List (List α × Bool)
  current : List α

namespace Filling

/-- Nothing filled yet. -/
def empty : Filling α := ⟨[], []⟩

/-- Closes the body being filled. -/
def close (filling : Filling α) (atEnd : Bool) : Filling α :=
  ⟨filling.closed ++ [(filling.current, atEnd)], []⟩

/-- Adds to the body being filled. -/
def add (filling : Filling α) (piece : List α) : Filling α :=
  ⟨filling.closed, filling.current ++ piece⟩

/-- Adds the pieces a line is cut into: the first to the body being filled, each other begins a body
of its own. -/
def put (filling : Filling α) : List (List α) → Filling α
  | [] => filling
  | [piece] => filling.add piece
  | piece :: next :: rest => ((filling.add piece).close false).put (next :: rest)

/-- Every body. -/
def bodies (filling : Filling α) : List (List α) :=
  filling.closed.map Prod.fst ++ [filling.current]

/-- What was put, with the separator back after each body that ends where a line does. -/
def text (separator : α) (filling : Filling α) : List α :=
  (filling.closed.flatMap fun body => body.1 ++ if body.2 then [separator] else []) ++
    filling.current

/-- Every entry replaced by its image. -/
def map (g : α → β) (filling : Filling α) : Filling β :=
  ⟨filling.closed.map fun body => (body.1.map g, body.2), filling.current.map g⟩

end Filling

/-- A line cut every `size` entries; the last piece may be shorter. -/
def blocks (size : Nat) (line : List α) : List (List α) :=
  if size = 0 ∨ line.length ≤ size then [line]
  else line.take size :: blocks size (line.drop size)
termination_by line.length
decreasing_by
  rw [List.length_drop]
  omega

/-! ## Lines -/

/-- Where a line goes. -/
inductive Place
  /-- Into a body with nothing in it. -/
  | start
  /-- After the lines that are in the body. -/
  | fits
  /-- Into the next body. -/
  | next
  /-- As far as it goes into the body, and on into the next: it is longer than a whole body. -/
  | cut
  deriving DecidableEq, Repr

/-- What is left of a body after a separator. -/
def room (budget used : Nat) : Nat := budget - (used + 1)

/-- Where a line of some length goes, when the body being filled has `used` entries. -/
def place (budget used length : Nat) : Place :=
  if used = 0 then .start
  else if room budget used = 0 then .next
  else if length ≤ room budget used then .fits
  else if length ≤ budget then .next
  else .cut

/-- Puts one more line. -/
def Filling.line (separator : α) (budget : Nat) (filling : Filling α) (line : List α) : Filling α :=
  match place budget filling.current.length line.length with
  | .start => filling.put (blocks budget line)
  | .fits => filling.add (separator :: line)
  | .next => (filling.close true).put (blocks budget line)
  | .cut =>
    let left := room budget filling.current.length
    ((filling.add (separator :: line.take left)).close false).put (blocks budget (line.drop left))

/-- Puts every line. -/
def pack (separator : α) (budget : Nat) (lines : List (List α)) : Filling α :=
  lines.foldl (Filling.line separator budget) .empty

/-! ## Cutting a line -/

/-- A line that fits is its own block. -/
theorem blocks_of_le {size : Nat} {line : List α} (h : line.length ≤ size) :
    blocks size line = [line] := by
  rw [blocks, if_pos (Or.inr h)]

/-- A longer line is cut at the size. -/
theorem blocks_of_lt {size : Nat} {line : List α} (hsize : 0 < size) (h : size < line.length) :
    blocks size line = line.take size :: blocks size (line.drop size) := by
  rw [blocks, if_neg (by omega)]

/-- Every line has a block. -/
theorem blocks_ne_nil (size : Nat) (line : List α) : blocks size line ≠ [] := by
  rw [blocks]
  split <;> exact List.cons_ne_nil _ _

/-- The pieces of a line make the line. -/
theorem flatten_blocks (size : Nat) (line : List α) : (blocks size line).flatten = line := by
  fun_induction blocks size line with
  | case1 line h => rw [List.flatten_singleton]
  | case2 line h ih => rw [List.flatten_cons, ih, List.take_append_drop]

/-- Cutting looks at lengths alone. -/
theorem map_blocks (g : α → β) (size : Nat) (line : List α) :
    (blocks size line).map (List.map g) = blocks size (line.map g) := by
  fun_induction blocks size line with
  | case1 line h => rw [blocks, List.length_map, if_pos h, List.map_singleton]
  | case2 line h ih =>
    rw [List.map_cons, ih, List.map_drop, List.map_take]
    rw [blocks.eq_def size (line.map g), List.length_map, if_neg h]

/-- No piece is longer than asked. -/
theorem length_le_of_mem_blocks {size : Nat} (hsize : 0 < size) {line piece : List α}
    (h : piece ∈ blocks size line) : piece.length ≤ size := by
  fun_induction blocks size line with
  | case1 line hle =>
    rw [List.mem_singleton.mp h]
    omega
  | case2 line hlt ih =>
    rcases List.mem_cons.mp h with rfl | hmem
    · rw [List.length_take]
      omega
    · exact ih hmem

/-- The pieces of a line with something in it have something in them. -/
theorem ne_nil_of_mem_blocks {size : Nat} {line piece : List α} (hline : line ≠ [])
    (h : piece ∈ blocks size line) : piece ≠ [] := by
  fun_induction blocks size line with
  | case1 line hle => rwa [List.mem_singleton.mp h]
  | case2 line hlt ih =>
    have hlong : size < line.length := by omega
    rcases List.mem_cons.mp h with rfl | hmem
    · rw [Ne, List.take_eq_nil_iff, not_or]
      exact ⟨by omega, hline⟩
    · refine ih ?_ hmem
      rw [Ne, List.drop_eq_nil_iff]
      omega

/-! ## Putting pieces -/

namespace Filling

variable {filling : Filling α}

/-- A piece that is not the last closes its part. -/
theorem put_cons {piece : List α} {pieces : List (List α)} (h : pieces ≠ []) :
    filling.put (piece :: pieces) = ((filling.add piece).close false).put pieces := by
  cases pieces with
  | nil => exact absurd rfl h
  | cons next rest => rfl

/-- The bodies after the pieces of a line: the first piece joins the body being filled. -/
theorem bodies_put (piece : List α) (pieces : List (List α)) :
    (filling.put (piece :: pieces)).bodies =
      filling.closed.map Prod.fst ++ (filling.current ++ piece) :: pieces := by
  induction pieces generalizing filling piece with
  | nil => rfl
  | cons next rest ih =>
    rw [put, ih]
    simp [close, add]

/-- Pieces are put as they are, one after the other. -/
theorem text_put (separator : α) (pieces : List (List α)) :
    (filling.put pieces).text separator = filling.text separator ++ pieces.flatten := by
  induction pieces generalizing filling with
  | nil => simp [put]
  | cons piece rest ih =>
    cases rest with
    | nil => simp [put, add, text]
    | cons next rest =>
      rw [put, ih]
      simp [close, add, text]

/-- Putting pieces looks at lengths alone. -/
theorem map_put (g : α → β) (pieces : List (List α)) :
    (filling.put pieces).map g = (filling.map g).put (pieces.map (List.map g)) := by
  induction pieces generalizing filling with
  | nil => rfl
  | cons piece rest ih =>
    cases rest with
    | nil => simp [put, add, map]
    | cons next rest =>
      rw [put, ih]
      simp [close, add, map, put]

end Filling

/-! ## What every line leaves as it is -/

section line

variable {separator : α} {budget : Nat} {filling : Filling α} {line : List α}

/-- A line starts a part when nothing is in it yet. -/
theorem place_eq_start_iff {used length : Nat} : place budget used length = .start ↔ used = 0 := by
  grind [place]

/-- A line that does not start a body finds something in it. -/
theorem ne_nil_of_place_ne_start (h : place budget filling.current.length line.length ≠ .start) :
    filling.current ≠ [] :=
  fun hnil => h (place_eq_start_iff.mpr (List.length_eq_zero_iff.mpr hnil))

/-- A line that fits leaves the body within its budget. -/
theorem le_of_place_eq_fits {used length : Nat} (h : place budget used length = .fits) :
    used + 1 + length ≤ budget := by
  unfold place room at h
  split_ifs at h
  omega

/-- A line is cut where something is left after the separator, and not the whole line. -/
theorem room_of_place_eq_cut {used length : Nat} (h : place budget used length = .cut) :
    0 < room budget used ∧ used + 1 + room budget used = budget ∧ budget < length := by
  unfold place at h
  split_ifs at h
  unfold room at *
  omega

/-- **What a line adds.** One case for each place it may go to. -/
theorem bodies_line : (filling.line separator budget line).bodies =
    match place budget filling.current.length line.length with
    | .start => filling.closed.map Prod.fst ++ blocks budget line
    | .fits => filling.closed.map Prod.fst ++ [filling.current ++ separator :: line]
    | .next => filling.bodies ++ blocks budget line
    | .cut => filling.closed.map Prod.fst ++
        (filling.current ++ separator :: line.take (room budget filling.current.length)) ::
          blocks budget (line.drop (room budget filling.current.length)) := by
  rw [Filling.line]
  cases hplace : place budget filling.current.length line.length with
  | start =>
    have hnil : filling.current = [] := List.length_eq_zero_iff.mp (place_eq_start_iff.mp hplace)
    obtain ⟨piece, pieces, hblocks⟩ := List.exists_cons_of_ne_nil (blocks_ne_nil budget line)
    simp only [hblocks, Filling.bodies_put, hnil, List.nil_append]
  | fits => rfl
  | next =>
    obtain ⟨piece, pieces, hblocks⟩ := List.exists_cons_of_ne_nil (blocks_ne_nil budget line)
    simp only [hblocks, Filling.bodies_put]
    simp [Filling.close, Filling.bodies]
  | cut =>
    obtain ⟨piece, pieces, hblocks⟩ := List.exists_cons_of_ne_nil
      (blocks_ne_nil budget (line.drop (room budget filling.current.length)))
    simp only [hblocks, Filling.bodies_put]
    simp [Filling.close, Filling.add]

/-- **The text of a line.** A line joins what was put, after a separator unless it is the first. -/
theorem text_line : (filling.line separator budget line).text separator =
    filling.text separator ++ (if filling.current = [] then [] else [separator]) ++ line := by
  have hclose : ∀ (filling : Filling α) (atEnd : Bool), (filling.close atEnd).text separator =
      filling.text separator ++ if atEnd then [separator] else [] := by
    intro filling atEnd
    simp [Filling.close, Filling.text]
  have hadd : ∀ (filling : Filling α) (piece : List α), (filling.add piece).text separator =
      filling.text separator ++ piece := by
    intro filling piece
    simp [Filling.add, Filling.text]
  have hcurrent : filling.current = [] ↔
      place budget filling.current.length line.length = .start := by
    rw [place_eq_start_iff, List.length_eq_zero_iff]
  simp only [hcurrent]
  rw [Filling.line]
  cases hplace : place budget filling.current.length line.length with
  | start => simp [Filling.text_put, flatten_blocks]
  | fits => simp [hadd]
  | next => simp [Filling.text_put, flatten_blocks, hclose]
  | cut => simp [Filling.text_put, flatten_blocks, hclose, hadd]

/-- Putting a line commutes with replacing every entry. -/
theorem map_line (g : α → β) : (filling.line separator budget line).map g =
    (filling.map g).line (g separator) budget (line.map g) := by
  have hlength : (filling.map g).current.length = filling.current.length := List.length_map g
  rw [Filling.line, Filling.line, hlength, List.length_map]
  cases hplace : place budget filling.current.length line.length with
  | start => simp only [Filling.map_put, map_blocks]
  | fits => simp [Filling.add, Filling.map]
  | next =>
    simp only [Filling.map_put, map_blocks]
    simp [Filling.close, Filling.map]
  | cut =>
    simp only [Filling.map_put, map_blocks, List.map_drop]
    simp [Filling.close, Filling.add, Filling.map, List.map_take]

/-- A property of every closed body, and of the body being filled once something is in it. -/
def Filling.All (p : List α → Prop) (filling : Filling α) : Prop :=
  (∀ body ∈ filling.closed.map Prod.fst, p body) ∧ (filling.current ≠ [] → p filling.current)

/-- A piece of a line, as long as the line has something in it. -/
def Piece (piece line : List α) : Prop := piece = [] → line = []

/-- **Step rule.** A property of bodies that the blocks of a line have, and that is kept when a line,
or what fits of it, joins a body, is kept by putting the line. -/
theorem Filling.All.step {p : List α → Prop} (h : filling.All p)
    (hblocks : ∀ tail, tail <:+ line → Piece tail line → ∀ piece ∈ blocks budget tail, p piece)
    (hjoin : ∀ piece, piece <+: line → Piece piece line → filling.current ≠ [] →
      p filling.current → filling.current.length + 1 + piece.length ≤ budget →
        p (filling.current ++ separator :: piece)) :
    ∀ body ∈ (filling.line separator budget line).bodies, p body := by
  have hused := @ne_nil_of_place_ne_start _ budget filling line
  intro body hbody
  rw [bodies_line] at hbody
  -- The four places a line can go to, as `place` names them.
  cases hplace : place budget filling.current.length line.length with
  | start =>
    rw [hplace] at hbody
    rcases List.mem_append.mp hbody with hold | hnew
    · exact h.1 body hold
    · exact hblocks line List.suffix_rfl id body hnew
  | fits =>
    rw [hplace] at hbody hused
    have hne := hused Place.noConfusion
    rcases List.mem_append.mp hbody with hold | hnew
    · exact h.1 body hold
    · rw [List.mem_singleton.mp hnew]
      exact hjoin line List.prefix_rfl id hne (h.2 hne) (le_of_place_eq_fits hplace)
  | next =>
    rw [hplace] at hbody hused
    have hne := hused Place.noConfusion
    rcases List.mem_append.mp hbody with hold | hnew
    · rcases List.mem_append.mp hold with hclosed | hcurrent
      · exact h.1 body hclosed
      · rw [List.mem_singleton.mp hcurrent]
        exact h.2 hne
    · exact hblocks line List.suffix_rfl id body hnew
  -- The head of the line fills the current body; the rest is cut into blocks.
  | cut =>
    rw [hplace] at hbody hused
    have hne := hused Place.noConfusion
    obtain ⟨hpos, hroom, hlong⟩ := room_of_place_eq_cut hplace
    rcases List.mem_append.mp hbody with hold | hnew
    · exact h.1 body hold
    · rcases List.mem_cons.mp hnew with rfl | hnew
      · refine hjoin _ (List.take_prefix _ _) (fun hnil => ?_) hne (h.2 hne) ?_
        · rw [List.take_eq_nil_iff] at hnil
          exact hnil.resolve_left (Nat.ne_of_gt hpos)
        · rw [List.length_take]
          omega
      · refine hblocks _ (List.drop_suffix _ _) (fun hnil => ?_) body hnew
        rw [List.drop_eq_nil_iff] at hnil
        omega

end line

/-! ## Whole packings -/

section pack

variable {separator : α} {budget : Nat} {lines : List (List α)}

/-- The last line is placed last. -/
theorem pack_append_singleton (line : List α) :
    pack separator budget (lines ++ [line]) =
      (pack separator budget lines).line separator budget line := by
  rw [pack, List.foldl_append]
  rfl

/-- Packing commutes with replacing every entry. -/
theorem map_pack (g : α → β) : (pack separator budget lines).map g =
    pack (g separator) budget (lines.map (List.map g)) := by
  induction lines using List.reverseRecOn with
  | nil => rfl
  | append_singleton lines line ih =>
    rw [pack_append_singleton, map_line, ih, List.map_append, List.map_singleton,
      pack_append_singleton]

/-- What holds of every body holds of the closed ones and of the one being filled. -/
theorem Filling.all_of_bodies {p : List α → Prop} {filling : Filling α}
    (h : ∀ body ∈ filling.bodies, p body) : filling.All p :=
  ⟨fun body hbody => h body (List.mem_append_left _ hbody),
    fun _ => h filling.current (List.mem_append_right _ List.mem_cons_self)⟩

/-- **Run rule.** What the blocks of every line have, and every join keeps, holds of every body of a
packing of some lines. -/
theorem forall_bodies_pack {p : List α → Prop} (hlines : lines ≠ [])
    (hblocks : ∀ line ∈ lines, ∀ tail, tail <:+ line → Piece tail line →
      ∀ piece ∈ blocks budget tail, p piece)
    (hjoin : ∀ line ∈ lines, ∀ body piece, piece <+: line → Piece piece line → body ≠ [] → p body →
      body.length + 1 + piece.length ≤ budget → p (body ++ separator :: piece)) :
    ∀ body ∈ (pack separator budget lines).bodies, p body := by
  induction lines using List.reverseRecOn with
  | nil => exact absurd rfl hlines
  | append_singleton lines line ih =>
    have hall : (pack separator budget lines).All p := by
      by_cases hnil : lines = []
      · subst hnil
        exact ⟨fun body hbody => absurd hbody List.not_mem_nil, fun hne => absurd rfl hne⟩
      · exact Filling.all_of_bodies (ih hnil
          (fun line hline => hblocks line (List.mem_append_left _ hline))
          (fun line hline => hjoin line (List.mem_append_left _ hline)))
    have hline : line ∈ lines ++ [line] := List.mem_append_right _ List.mem_cons_self
    rw [pack_append_singleton]
    exact hall.step (hblocks line hline) fun piece hpiece hsome hne hcurrent hle =>
      hjoin line hline _ piece hpiece hsome hne hcurrent hle

/-- No body is longer than the budget. -/
theorem length_le_of_mem_pack (hbudget : 0 < budget) :
    ∀ body ∈ (pack separator budget lines).bodies, body.length ≤ budget := by
  by_cases hlines : lines = []
  · subst hlines
    intro body hbody
    rw [List.mem_singleton.mp hbody]
    exact Nat.zero_le _
  · refine forall_bodies_pack hlines (fun line _ tail _ _ piece hpiece => ?_)
      fun line _ body piece _ _ _ _ hle => ?_
    · exact length_le_of_mem_blocks hbudget hpiece
    · rw [List.length_append, List.length_cons]
      omega

/-- What a block is made of is in the line. -/
theorem mem_of_mem_blocks {size : Nat} {line tail piece : List α} (htail : tail <:+ line)
    (hpiece : piece ∈ blocks size tail) {entry : α} (hentry : entry ∈ piece) : entry ∈ line := by
  refine htail.subset ?_
  rw [← flatten_blocks size tail]
  exact List.mem_flatten_of_mem hpiece hentry

/-- **Both ends of a body** are entries of lines, never a separator: what holds of every entry of
every line, when no line is empty, holds of the ends of every body. -/
theorem edges_pack {q : α → Prop} (hlines : ∀ line ∈ lines, line ≠ [] ∧ ∀ entry ∈ line, q entry) :
    ∀ body ∈ (pack separator budget lines).bodies,
      (∀ entry ∈ body.head?, q entry) ∧ ∀ entry ∈ body.getLast?, q entry := by
  by_cases hnil : lines = []
  · subst hnil
    intro body hbody
    have hbody : body = [] := List.mem_singleton.mp hbody
    subst hbody
    exact ⟨fun entry h => absurd h (by simp), fun entry h => absurd h (by simp)⟩
  refine forall_bodies_pack hnil (fun line hline tail htail hsome piece hpiece => ?_)
    fun line hline body piece hpiece hsome hne hbody _ => ?_
  · have hall : ∀ entry ∈ piece, q entry := fun entry hentry =>
      (hlines line hline).2 entry (mem_of_mem_blocks htail hpiece hentry)
    exact ⟨fun entry h => hall entry (List.mem_of_mem_head? h),
      fun entry h => hall entry (List.mem_of_mem_getLast? h)⟩
  · have hpieceNe : piece ≠ [] := fun heq => (hlines line hline).1 (hsome heq)
    obtain ⟨first, rest, rfl⟩ := List.exists_cons_of_ne_nil hne
    refine ⟨hbody.1, fun entry h => ?_⟩
    rw [List.getLast?_append, List.getLast?_cons, List.getLast?_eq_some_getLast hpieceNe,
      Option.getD_some, Option.some_or, Option.mem_some_iff] at h
    rw [← h]
    exact (hlines line hline).2 _ (hpiece.subset (List.getLast_mem hpieceNe))

/-- No body of a packing of some lines is empty, when no line is. -/
theorem ne_nil_of_mem_pack (hlines : ∀ line ∈ lines, line ≠ []) (hne : lines ≠ []) :
    ∀ body ∈ (pack separator budget lines).bodies, body ≠ [] := by
  refine forall_bodies_pack hne (fun line hline tail _ hsome piece hpiece => ?_)
    fun line hline body piece _ _ hbody _ _ => ?_
  · exact ne_nil_of_mem_blocks (fun hnil => hlines line hline (hsome hnil)) hpiece
  · exact List.append_ne_nil_of_left_ne_nil hbody _

/-- Nothing is being filled as long as no line was put. -/
theorem current_eq_nil_iff (hlines : ∀ line ∈ lines, line ≠ []) :
    (pack separator budget lines).current = [] ↔ lines = [] := by
  constructor
  · intro hcurrent
    by_contra hne
    exact ne_nil_of_mem_pack hlines hne _ (List.mem_append_right _ List.mem_cons_self) hcurrent
  · rintro rfl
    rfl

/-- **The text of a packing.** With the separator back after each body that ends where a line does,
the bodies are the lines, each but the last with the separator after it. -/
theorem text_pack (hlines : ∀ line ∈ lines, line ≠ []) :
    (pack separator budget lines).text separator ++ (if lines = [] then [] else [separator]) =
      lines.flatMap (· ++ [separator]) := by
  induction lines using List.reverseRecOn with
  | nil => rfl
  | append_singleton lines line ih =>
    have hlines := fun line hline => hlines line (List.mem_append_left _ hline)
    rw [pack_append_singleton, text_line, List.flatMap_append, ← ih hlines]
    simp only [current_eq_nil_iff hlines]
    simp

/-- **The bodies give the lines back.** In the text of the lines, `none` stands for the end of a line.
The bodies are its parts, in order and with the separator for each line end inside them; a line end
stands after a part exactly where the part ends with a line, and no part begins or ends with one. -/
def Reassembles (separator : α) (lines bodies : List (List α)) : Prop :=
  ∃ parts : List (List (Option α) × Bool),
    parts.map (fun part => part.1.map (·.getD separator)) = bodies ∧
    (parts.flatMap fun part => part.1 ++ if part.2 then [none] else []) =
      (lines.flatMap fun line => line.map some ++ [none]) ∧
    ∀ part ∈ parts, part.1.head? ≠ some none ∧ part.1.getLast? ≠ some none

/-- A packing of lines with something in them gives them back. -/
theorem reassembles_pack (hlines : ∀ line ∈ lines, line ≠ []) :
    Reassembles separator lines (pack separator budget lines).bodies := by
  -- The same packing with marks for separators, so that they cannot be taken for entries.
  set marked := lines.map (List.map some) with hmarked
  set filling := pack (none : Option α) budget marked with hfilling
  have hmarkedNe : ∀ line ∈ marked, line ≠ [] := by
    intro line hline
    obtain ⟨plain, hplain, rfl⟩ := List.mem_map.mp hline
    rw [Ne, List.map_eq_nil_iff]
    exact hlines plain hplain
  have hmarkedSome : ∀ line ∈ marked, ∀ entry ∈ line, entry ≠ none := by
    intro line hline entry hentry
    obtain ⟨plain, -, rfl⟩ := List.mem_map.mp hline
    obtain ⟨value, -, rfl⟩ := List.mem_map.mp hentry
    exact Option.some_ne_none value
  have herase : filling.map (·.getD separator) = pack separator budget lines := by
    rw [hfilling, map_pack, hmarked, List.map_map]
    congr 1
    conv_rhs => rw [← List.map_id lines]
    apply List.map_congr_left
    intro line _
    rw [Function.comp_apply, List.map_map]
    exact List.map_id line
  refine ⟨filling.closed ++ [(filling.current, !lines.isEmpty)], ?_, ?_, ?_⟩
  · rw [← herase]
    simp [Filling.bodies, Filling.map]
  · have htext : filling.text none ++ (if marked = [] then [] else [none]) =
        marked.flatMap (· ++ [none]) := text_pack hmarkedNe
    rw [hmarked, List.flatMap_map, ← hmarked] at htext
    rw [List.flatMap_append, ← htext, Filling.text, List.append_assoc]
    congr 1
    cases lines <;> simp [hmarked]
  -- No part begins or ends with a separator: it stands between two lines of one part.
  · intro part hpart
    have hbody : part.1 ∈ filling.bodies := by
      rcases List.mem_append.mp hpart with h | h
      · exact List.mem_append_left _ (List.mem_map_of_mem h)
      · rw [List.mem_singleton.mp h]
        exact List.mem_append_right _ List.mem_cons_self
    obtain ⟨hhead, hlast⟩ := edges_pack
      (fun line hline => ⟨hmarkedNe line hline, hmarkedSome line hline⟩) part.1 hbody
    exact ⟨fun h => hhead none h rfl, fun h => hlast none h rfl⟩

/-! ## What each body has of which line -/

/-- The pieces of lines, each with its line's index, in the order of the lines. -/
def numbered (cuts : List (List (List α))) : List (Nat × List α) :=
  cuts.zipIdx.flatMap fun cut => cut.1.map (cut.2, ·)

/-- What a body with these pieces is. -/
def joined (separator : α) (pieces : List (Nat × List α)) : List α :=
  [separator].intercalate (pieces.map Prod.snd)

/-- A packing of lines: each line is cut into pieces, and each body has the next of them. A line no
longer than a body is one piece. -/
structure Layout (separator : α) (budget : Nat) (lines bodies : List (List α))
    (cuts : List (List (List α))) (pieces : List (List (Nat × List α))) : Prop where
  lines : cuts.map List.flatten = lines
  filled : ∀ cut ∈ cuts, ∀ piece ∈ cut, piece ≠ []
  whole : ∀ cut ∈ cuts, cut.flatten.length ≤ budget → cut = [cut.flatten]
  order : pieces.flatten = numbered cuts
  bodies : bodies = pieces.map (joined separator)

/-- A piece that a body has is one of its line's. -/
theorem Layout.exists_cut {bodies : List (List α)} {cuts : List (List (List α))}
    {pieces : List (List (Nat × List α))} (h : Layout separator budget lines bodies cuts pieces)
    {body : List (Nat × List α)} (hbody : body ∈ pieces) {piece : Nat × List α}
    (hpiece : piece ∈ body) : ∃ cut ∈ cuts, lines[piece.1]? = some cut.flatten ∧ piece.2 ∈ cut := by
  have hmem : piece ∈ numbered cuts := h.order ▸ List.mem_flatten_of_mem hbody hpiece
  obtain ⟨⟨cut, index⟩, hcut, hpiece⟩ := List.mem_flatMap.mp hmem
  obtain ⟨value, hvalue, rfl⟩ := List.mem_map.mp hpiece
  refine ⟨cut, List.fst_mem_of_mem_zipIdx hcut, ?_, hvalue⟩
  rw [← h.lines, List.getElem?_map, List.mk_mem_zipIdx_iff_getElem?.mp hcut]
  rfl

/-- A piece of a line is part of it. -/
theorem Layout.part {bodies : List (List α)} {cuts : List (List (List α))}
    {pieces : List (List (Nat × List α))} (h : Layout separator budget lines bodies cuts pieces)
    {body : List (Nat × List α)} (hbody : body ∈ pieces) {piece : Nat × List α}
    (hpiece : piece ∈ body) : ∃ line, lines[piece.1]? = some line ∧ piece.2 <:+: line ∧
      (line.length ≤ budget → piece.2 = line) := by
  obtain ⟨cut, hcut, hline, hmem⟩ := h.exists_cut hbody hpiece
  refine ⟨cut.flatten, hline, List.infix_of_mem_flatten hmem, fun hle => ?_⟩
  rw [h.whole cut hcut hle] at hmem
  exact List.mem_singleton.mp hmem

/-- The pieces of one more line. -/
theorem numbered_append_singleton (cuts : List (List (List α))) (cut : List (List α)) :
    numbered (cuts ++ [cut]) = numbered cuts ++ cut.map (cuts.length, ·) := by
  simp [numbered, List.zipIdx_append]

/-- **One more line**, cut into pieces which the bodies have after those of the other lines. -/
theorem Layout.append {bodies bodies' : List (List α)} {cuts : List (List (List α))}
    {pieces pieces' : List (List (Nat × List α))} {line : List α}
    (h : Layout separator budget lines bodies cuts pieces) {cut : List (List α)}
    (hcut : cut.flatten = line) (hfilled : ∀ piece ∈ cut, piece ≠ [])
    (hwhole : line.length ≤ budget → cut = [line])
    (horder : pieces'.flatten = pieces.flatten ++ cut.map (cuts.length, ·))
    (hbodies : bodies' = pieces'.map (joined separator)) :
    Layout separator budget (lines ++ [line]) bodies' (cuts ++ [cut]) pieces' where
  lines := by rw [List.map_append, h.lines, List.map_singleton, hcut]
  filled := by
    intro other hother
    rcases List.mem_append.mp hother with hold | hnew
    · exact h.filled other hold
    · rw [List.mem_singleton.mp hnew]
      exact hfilled
  whole := by
    intro other hother
    rcases List.mem_append.mp hother with hold | hnew
    · exact h.whole other hold
    · rw [List.mem_singleton.mp hnew, hcut]
      exact hwhole
  order := by rw [horder, h.order, numbered_append_singleton]
  bodies := hbodies

/-- A body with pieces in it is not empty, when they are not. -/
theorem joined_eq_nil {pieces : List (Nat × List α)} (hfilled : ∀ piece ∈ pieces, piece.2 ≠ [])
    (h : joined separator pieces = []) : pieces = [] := by
  cases pieces with
  | nil => rfl
  | cons first rest =>
    have hfirst := hfilled first List.mem_cons_self
    cases rest with
    | nil => exact absurd (by simpa [joined] using h) hfirst
    | cons second rest =>
      rw [joined, List.map_cons, List.map_cons, List.intercalate_cons_cons, List.append_assoc] at h
      exact absurd (List.append_eq_nil_iff.mp h).1 hfirst

/-- One more piece at the end of a body. -/
theorem joined_concat {pieces : List (Nat × List α)} (hne : pieces ≠ []) (piece : Nat × List α) :
    joined separator (pieces ++ [piece]) = joined separator pieces ++ separator :: piece.2 := by
  induction pieces with
  | nil => exact absurd rfl hne
  | cons first rest ih =>
    cases rest with
    | nil => simp [joined]
    | cons second rest =>
      have ih := ih (List.cons_ne_nil _ _)
      simp only [joined, List.cons_append, List.map_cons, List.intercalate_cons_cons] at ih ⊢
      rw [ih]
      simp

/-- Bodies of one piece each. -/
theorem map_joined_singletons (index : Nat) (cut : List (List α)) :
    (cut.map fun piece => [(index, piece)]).map (joined separator) = cut := by
  rw [List.map_map]
  calc cut.map (joined separator ∘ fun piece => [(index, piece)]) = cut.map id := by
        apply List.map_congr_left
        intro piece _
        simp [joined]
    _ = cut := List.map_id cut

/-- Their pieces. -/
theorem flatten_singletons (index : Nat) (cut : List (List α)) :
    (cut.map fun piece => [(index, piece)]).flatten = cut.map (index, ·) := by
  rw [← List.flatMap_def, ← List.map_eq_flatMap]

/-- **A packing has a layout**, when no line is empty. -/
theorem layout_pack (hlines : ∀ line ∈ lines, line ≠ []) :
    ∃ cuts pieces, Layout separator budget lines (pack separator budget lines).bodies cuts
      pieces := by
  induction lines using List.reverseRecOn with
  | nil => exact ⟨[], [[]], rfl, fun _ h => absurd h List.not_mem_nil,
      fun _ h => absurd h List.not_mem_nil, rfl, rfl⟩
  | append_singleton lines line ih =>
    obtain ⟨cuts, pieces, h⟩ := ih fun other hother => hlines other (List.mem_append_left _ hother)
    have hline : line ≠ [] := hlines line (List.mem_append_right _ List.mem_cons_self)
    rw [pack_append_singleton, bodies_line]
    set filling := pack separator budget lines with hfilling
    -- The pieces of the closed bodies, and of the one being filled.
    obtain ⟨closed, last, rfl, hclosed, hlast⟩ := List.append_eq_map_iff.mp h.bodies
    obtain ⟨current, rfl, hcurrent⟩ := List.map_eq_singleton_iff.mp hlast
    have hfilled : ∀ piece ∈ current, piece.2 ≠ [] := by
      intro piece hpiece
      obtain ⟨cut, hcut, -, hmem⟩ :=
        h.exists_cut (List.mem_append_right _ List.mem_cons_self) hpiece
      exact h.filled cut hcut _ hmem
    have hblocks : ∀ {tail : List α}, tail ≠ [] → ∀ piece ∈ blocks budget tail, piece ≠ [] :=
      fun htail _ => ne_nil_of_mem_blocks htail
    cases hplace : place budget filling.current.length line.length with
    | start =>
      have hnil : current = [] := by
        refine @joined_eq_nil _ separator current hfilled ?_
        rw [hcurrent]
        exact List.length_eq_zero_iff.mp (place_eq_start_iff.mp hplace)
      refine ⟨_, closed ++ (blocks budget line).map fun piece => [(cuts.length, piece)],
        h.append (flatten_blocks budget line) (hblocks hline) blocks_of_le ?_ ?_⟩
      · rw [List.flatten_append, List.flatten_append, flatten_singletons, hnil]
        simp
      · rw [List.map_append, hclosed, map_joined_singletons]
    | fits =>
      have hne : current ≠ [] := by
        rintro rfl
        exact ne_nil_of_place_ne_start (by rw [hplace]; exact Place.noConfusion) hcurrent.symm
      refine ⟨_, closed ++ [current ++ [(cuts.length, line)]],
        h.append (show [line].flatten = line by simp) (by simpa using hline) (fun _ => rfl) ?_ ?_⟩
      · simp
      · rw [List.map_append, hclosed, List.map_singleton, joined_concat hne, hcurrent]
    | next =>
      refine ⟨_, closed ++ [current] ++ (blocks budget line).map fun piece => [(cuts.length, piece)],
        h.append (flatten_blocks budget line) (hblocks hline) blocks_of_le ?_ ?_⟩
      · rw [List.flatten_append, flatten_singletons]
      · rw [List.map_append, List.map_append, hclosed, map_joined_singletons, List.map_singleton,
          hcurrent]
        rfl
    | cut =>
      obtain ⟨hpos, hroom, hlong⟩ := room_of_place_eq_cut hplace
      set left := room budget filling.current.length with hleft
      have htake : line.take left ≠ [] := by
        rw [Ne, List.take_eq_nil_iff, not_or]
        exact ⟨by omega, hline⟩
      have hdrop : line.drop left ≠ [] := by
        rw [Ne, List.drop_eq_nil_iff]
        omega
      have hne : current ≠ [] := by
        rintro rfl
        exact ne_nil_of_place_ne_start (by rw [hplace]; exact Place.noConfusion) hcurrent.symm
      have hcut : (line.take left :: blocks budget (line.drop left)).flatten = line := by
        rw [List.flatten_cons, flatten_blocks, List.take_append_drop]
      refine ⟨_, closed ++ (current ++ [(cuts.length, line.take left)]) ::
        (blocks budget (line.drop left)).map fun piece => [(cuts.length, piece)],
        h.append hcut (List.forall_mem_cons.mpr ⟨htake, hblocks hdrop⟩) (fun hle => by omega) ?_ ?_⟩
      · rw [List.flatten_append, List.flatten_cons, flatten_singletons]
        simp
      · rw [List.map_append, hclosed, List.map_cons, map_joined_singletons, joined_concat hne,
          hcurrent]

end pack

/-! ## The sizes of the bodies -/

/-- The sizes of the closed bodies, and of the one being filled. -/
structure Sizes where
  closed : List Nat
  used : Nat
  deriving DecidableEq, Repr

/-- How many whole blocks a line fills before its last. -/
def wholeBlocks (size length : Nat) : Nat := (length - 1) / size

/-- The size of a line's last block. -/
def lastBlock (size length : Nat) : Nat := length - wholeBlocks size length * size

/-- The sizes after one more line of some length. -/
def Sizes.line (budget : Nat) (sizes : Sizes) (length : Nat) : Sizes :=
  match place budget sizes.used length with
  | .start =>
    ⟨sizes.closed ++ List.replicate (wholeBlocks budget length) budget, lastBlock budget length⟩
  | .fits => ⟨sizes.closed, sizes.used + 1 + length⟩
  | .next =>
    ⟨sizes.closed ++ sizes.used :: List.replicate (wholeBlocks budget length) budget,
      lastBlock budget length⟩
  | .cut =>
    let rest := length - room budget sizes.used
    ⟨sizes.closed ++ budget :: List.replicate (wholeBlocks budget rest) budget,
      lastBlock budget rest⟩

/-- The sizes of the bodies that lines of these lengths are packed into. -/
def sizes (budget : Nat) (lengths : List Nat) : List Nat :=
  let filled := lengths.foldl (Sizes.line budget) ⟨[], 0⟩
  filled.closed ++ [filled.used]

/-- The sizes of what was put. -/
def Filling.sizes (filling : Filling α) : Sizes :=
  ⟨filling.closed.map (·.1.length), filling.current.length⟩

/-- The pieces of a line put into an empty body. -/
theorem sizes_put_blocks {budget : Nat} (hbudget : 0 < budget) {filling : Filling α}
    (hnil : filling.current = []) (line : List α) :
    (filling.put (blocks budget line)).sizes =
      ⟨filling.sizes.closed ++ List.replicate (wholeBlocks budget line.length) budget,
        lastBlock budget line.length⟩ := by
  fun_induction blocks budget line generalizing filling with
  | case1 line hle =>
    have hzero : wholeBlocks budget line.length = 0 := Nat.div_eq_of_lt (by omega)
    simp [Filling.put, Filling.add, Filling.sizes, hnil, hzero, lastBlock]
  | case2 line hlt ih =>
    have hlong : budget < line.length := by omega
    have hone : wholeBlocks budget line.length =
        wholeBlocks budget (line.drop budget).length + 1 := by
      rw [wholeBlocks, wholeBlocks, List.length_drop, Nat.div_eq_sub_div hbudget (by omega)]
      congr 2
      omega
    have hlast : lastBlock budget line.length = lastBlock budget (line.drop budget).length := by
      rw [lastBlock, lastBlock, hone, List.length_drop, Nat.add_mul]
      omega
    rw [Filling.put_cons (blocks_ne_nil _ _), ih rfl, hone, hlast, List.replicate_succ]
    have htake : (line.take budget).length = budget := by
      rw [List.length_take]
      omega
    simp [Filling.sizes, Filling.close, Filling.add, hnil, htake]

/-- **The sizes after a line** depend on its length only. -/
theorem sizes_line {budget : Nat} (hbudget : 0 < budget) (separator : α) (filling : Filling α)
    (line : List α) : (filling.line separator budget line).sizes =
      filling.sizes.line budget line.length := by
  rw [Filling.line, Sizes.line]
  have hused : filling.sizes.used = filling.current.length := rfl
  rw [hused]
  cases hplace : place budget filling.current.length line.length with
  | start =>
    exact sizes_put_blocks hbudget (List.length_eq_zero_iff.mp (place_eq_start_iff.mp hplace)) line
  | fits =>
    simp [Filling.sizes, Filling.add]
    omega
  | next =>
    have hput := @sizes_put_blocks α budget hbudget (filling.close true) rfl line
    simp only [hput]
    simp [Filling.sizes, Filling.close]
  | cut =>
    obtain ⟨hpos, hroom, hlong⟩ := room_of_place_eq_cut hplace
    have htake : (filling.current ++ separator ::
        line.take (room budget filling.current.length)).length = budget := by
      rw [List.length_append, List.length_cons, List.length_take]
      omega
    have hput := @sizes_put_blocks α budget hbudget ((filling.add (separator ::
      line.take (room budget filling.current.length))).close false) rfl
      (line.drop (room budget filling.current.length))
    simp only [hput, List.length_drop]
    simp only [Filling.sizes, Filling.close, Filling.add, List.map_append, List.map_cons, htake]
    simp

/-- The sizes of a packing are those the lengths of the lines give. -/
theorem sizes_pack {budget : Nat} (hbudget : 0 < budget) (separator : α) (lines : List (List α)) :
    (pack separator budget lines).sizes =
      (lines.map List.length).foldl (Sizes.line budget) ⟨[], 0⟩ := by
  induction lines using List.reverseRecOn with
  | nil => rfl
  | append_singleton lines line ih =>
    rw [pack_append_singleton, sizes_line hbudget, ih]
    simp

/-- The bodies of a packing have the sizes that the lengths of the lines give. -/
theorem map_length_bodies_pack {budget : Nat} (hbudget : 0 < budget) (separator : α)
    (lines : List (List α)) : (pack separator budget lines).bodies.map List.length =
      sizes budget (lines.map List.length) := by
  rw [sizes, ← sizes_pack hbudget separator]
  simp [Filling.bodies, Filling.sizes]

/-! ## Where lines are cut -/

/-- The offsets at which a line of some length is cut, when the body being filled has `used`
entries. -/
def cutsOf (budget used length : Nat) : List Nat :=
  match place budget used length with
  | .start | .next => (List.range (wholeBlocks budget length)).map fun k => (k + 1) * budget
  | .fits => []
  | .cut =>
    (List.range (wholeBlocks budget (length - room budget used) + 1)).map fun k =>
      room budget used + k * budget

/-- How many entries the body being filled has, after lines of these lengths. -/
def usedAfter (budget : Nat) (lengths : List Nat) : Nat :=
  (lengths.foldl (Sizes.line budget) ⟨[], 0⟩).used

/-- A property of the entry after every cut of these lines. -/
def AfterCuts (budget : Nat) (q : α → Prop) (lines : List (List α)) : Prop :=
  ∀ before line after, lines = before ++ line :: after →
    ∀ offset ∈ cutsOf budget (usedAfter budget (before.map List.length)) line.length,
      ∀ entry ∈ (line)[offset]?, q entry

/-- The cuts of lines are those of all but the last, and those of the last. -/
theorem afterCuts_append_singleton {budget : Nat} {q : α → Prop} {lines : List (List α)}
    {line : List α} : AfterCuts budget q (lines ++ [line]) ↔ AfterCuts budget q lines ∧
      ∀ offset ∈ cutsOf budget (usedAfter budget (lines.map List.length)) line.length,
        ∀ entry ∈ (line)[offset]?, q entry := by
  constructor
  · intro h
    refine ⟨fun before other after heq => ?_, h lines line [] rfl⟩
    exact h before other (after ++ [line]) (by rw [heq, List.append_assoc]; rfl)
  · rintro ⟨hlines, hline⟩ before other after heq
    rcases List.eq_nil_or_concat after with rfl | ⟨after, last, rfl⟩
    · obtain ⟨rfl, h⟩ := List.append_inj' heq rfl
      rw [List.singleton_inj] at h
      rw [← h]
      exact hline
    · rw [List.concat_eq_append, ← List.cons_append, ← List.append_assoc] at heq
      exact hlines before other after (List.append_inj' heq rfl).1

/-- Lines that fit into a body are not cut. -/
theorem afterCuts_of_length_le {budget : Nat} (hbudget : 0 < budget) {q : α → Prop}
    {lines : List (List α)} (h : ∀ line ∈ lines, line.length ≤ budget) :
    AfterCuts budget q lines := by
  intro before line after heq offset hoffset
  have hle : line.length ≤ budget := h line (by simp [heq])
  have hzero : wholeBlocks budget line.length = 0 := Nat.div_eq_of_lt (by omega)
  rw [cutsOf] at hoffset
  split at hoffset
  · simp [hzero] at hoffset
  · simp [hzero] at hoffset
  · exact absurd hoffset List.not_mem_nil
  · next hcut =>
    have hlong := (room_of_place_eq_cut hcut).2.2
    omega

/-- The heads of the blocks of a line. -/
theorem forall_head_blocks_iff {size : Nat} (hsize : 0 < size) {q : α → Prop} (line : List α) :
    (∀ piece ∈ blocks size line, ∀ entry ∈ piece.head?, q entry) ↔
      ∀ k ≤ wholeBlocks size line.length, ∀ entry ∈ (line)[k * size]?, q entry := by
  fun_induction blocks size line with
  | case1 line hle =>
    have hzero : wholeBlocks size line.length = 0 := Nat.div_eq_of_lt (by omega)
    rw [hzero]
    simp [List.head?_eq_getElem?]
  | case2 line hlt ih =>
    have hone : wholeBlocks size line.length = wholeBlocks size (line.drop size).length + 1 := by
      rw [wholeBlocks, wholeBlocks, List.length_drop, Nat.div_eq_sub_div hsize (by omega)]
      congr 2
      omega
    have hhead : (line.take size).head? = (line)[0]? := by
      rw [List.head?_eq_getElem?, List.getElem?_take_of_lt hsize]
    rw [List.forall_mem_cons, hhead, ih, hone]
    constructor
    · rintro ⟨hfirst, hrest⟩ k hk
      cases k with
      | zero => rw [Nat.zero_mul]; exact hfirst
      | succ k =>
        have hnext := hrest k (by omega)
        rwa [List.getElem?_drop, Nat.add_comm, ← Nat.succ_mul] at hnext
    · intro h
      refine ⟨by simpa using h 0 (by omega), fun k hk => ?_⟩
      rw [List.getElem?_drop, Nat.add_comm, ← Nat.succ_mul]
      exact h (k + 1) (by omega)

/-- The heads of the blocks of a line whose first entry has the property. -/
theorem forall_head_blocks_iff' {size : Nat} (hsize : 0 < size) {q : α → Prop} {line : List α}
    (hline : ∀ entry ∈ line.head?, q entry) :
    (∀ piece ∈ blocks size line, ∀ entry ∈ piece.head?, q entry) ↔
      ∀ offset ∈ (List.range (wholeBlocks size line.length)).map (fun k => (k + 1) * size),
        ∀ entry ∈ (line)[offset]?, q entry := by
  rw [forall_head_blocks_iff hsize, List.forall_mem_map]
  constructor
  · intro h k hk
    exact h (k + 1) (by rw [List.mem_range] at hk; omega)
  · intro h k hk
    cases k with
    | zero =>
      rw [Nat.zero_mul, ← List.head?_eq_getElem?]
      exact hline
    | succ k => exact h k (List.mem_range.mpr (by omega))

/-- **Where bodies begin.** When every line has something in it and begins with the property, the
bodies do exactly when the entry after every cut has it. -/
theorem forall_head_pack_iff {budget : Nat} (hbudget : 0 < budget) (separator : α) {q : α → Prop}
    {lines : List (List α)} (hlines : ∀ line ∈ lines, line ≠ [] ∧ ∀ entry ∈ line.head?, q entry) :
    (∀ body ∈ (pack separator budget lines).bodies, ∀ entry ∈ body.head?, q entry) ↔
      AfterCuts budget q lines := by
  induction lines using List.reverseRecOn with
  | nil =>
    refine iff_of_true (fun body hbody => ?_) fun before line after heq => absurd heq (by simp)
    have hbody : body = [] := List.mem_singleton.mp hbody
    rw [hbody]
    exact fun entry hentry => absurd hentry (by simp)
  | append_singleton lines line ih =>
    have hbefore := ih fun other hother => hlines other (List.mem_append_left _ hother)
    obtain ⟨hne, hhead⟩ := hlines line (List.mem_append_right _ List.mem_cons_self)
    -- The sizes the budget is counted in are those of the bodies themselves.
    have hused : usedAfter budget (lines.map List.length) =
        (pack separator budget lines).current.length := by
      have hsizes := congrArg Sizes.used (sizes_pack hbudget separator lines)
      exact hsizes.symm
    rw [afterCuts_append_singleton, ← hbefore, hused, pack_append_singleton, bodies_line, cutsOf]
    set filling := pack separator budget lines with hfilling
    have hheads : filling.current ≠ [] → ∀ tail : List α,
        (filling.current ++ tail).head? = filling.current.head? := by
      intro hcurrent tail
      obtain ⟨first, rest, heq⟩ := List.exists_cons_of_ne_nil hcurrent
      rw [heq, List.cons_append, List.head?_cons, List.head?_cons]
    cases hplace : place budget filling.current.length line.length with
    | start =>
      have hnil : filling.current = [] :=
        List.length_eq_zero_iff.mp (place_eq_start_iff.mp hplace)
      simp only [Filling.bodies, hnil, List.forall_mem_append]
      rw [forall_head_blocks_iff' hbudget hhead]
      simp
    | fits =>
      have hcurrent := ne_nil_of_place_ne_start (by rw [hplace]; exact Place.noConfusion)
      simp only [Filling.bodies, List.forall_mem_append, List.forall_mem_singleton, hheads hcurrent]
      rw [iff_self_and]
      exact fun _ offset hoffset => absurd hoffset List.not_mem_nil
    -- A line that starts a body of its own is cut as the first one would be.
    | next =>
      simp only [List.forall_mem_append]
      rw [forall_head_blocks_iff' hbudget hhead]
    | cut =>
      have hcurrent := ne_nil_of_place_ne_start (by rw [hplace]; exact Place.noConfusion)
      simp only [Filling.bodies, List.forall_mem_append, List.forall_mem_cons, hheads hcurrent,
        List.not_mem_nil, false_imp_iff, implies_true, and_true]
      rw [forall_head_blocks_iff hbudget, List.length_drop, and_assoc]
      simp only [List.getElem?_drop, List.forall_mem_map, List.mem_range, Nat.lt_succ_iff]

end Packing
