import Mathlib.Algebra.Order.BigOperators.Group.List
import Mathlib.Data.Nat.Digits.Defs
import Serbero.Basic
import Serbero.Lib.Substitute
import Std.Data.TreeMap.Lemmas

/-! # The catalog of party messages

One catalog per language: the texts of its templates, how it writes numbers, and the word lists of
its rules. A text may hold the amount of the order; where the amount is unknown the template is
replaced by its form without one. -/

namespace Serbero

open Substitute

/-! ## Amounts -/

/-- A fiat amount to render: the value as Mostro gives it and its currency code. -/
structure Amount where
  value : String
  currency : String
  deriving DecidableEq, Repr

/-- How a language separates the digits of a number. -/
structure NumberFormat where
  thousandsSeparator : String
  decimalSeparator : String
  deriving DecidableEq, Repr

/-- What comes before the first point, and after it if there is one. -/
def splitPoint (value : List Char) : List Char × Option (List Char) :=
  if '.' ∈ value then
    (value.takeWhile (· != '.'), some (value.dropWhile (· != '.')).tail)
  else (value, none)

/-- Some digits and nothing else. -/
def isDigits (text : List Char) : Bool := !text.isEmpty && text.all Char.isDigit

/-- The digits, with a separator wherever a multiple of three of them is left; none before the first
one. -/
def groupFrom (separator : List Char) (first : Bool) : List Char → List Char
  | [] => []
  | digit :: rest =>
    (if !first && (rest.length + 1) % 3 == 0 then separator else []) ++
      digit :: groupFrom separator false rest

/-- The amount as the language writes it. A value that is not a plain decimal number is kept as it
is. -/
def NumberFormat.formatAmount (format : NumberFormat) (amount : Amount) : String :=
  let (whole, fraction) := splitPoint amount.value.toList
  if !isDigits whole || fraction.any fun digits => !isDigits digits then
    amount.value ++ " " ++ amount.currency
  else
    let grouped := groupFrom format.thousandsSeparator.toList true whole
    let written := match fraction with
      | some digits => grouped ++ format.decimalSeparator.toList ++ digits
      | none => grouped
    String.ofList written ++ " " ++ amount.currency

section amounts

variable {separator : List Char}

/-- A separator for every three digits. -/
theorem length_groupFrom_false (digits : List Char) :
    (groupFrom separator false digits).length =
      digits.length + digits.length / 3 * separator.length := by
  induction digits with
  | nil => simp [groupFrom]
  | cons digit rest ih =>
    rw [groupFrom, List.length_append, List.length_cons, List.length_cons, ih]
    by_cases hgroup : (rest.length + 1) % 3 = 0
    · have hthird : (rest.length + 1) / 3 = rest.length / 3 + 1 := by omega
      simp [hgroup, hthird, Nat.add_mul]
      omega
    · have hthird : (rest.length + 1) / 3 = rest.length / 3 := by omega
      simp [hgroup, hthird]
      omega

/-- The first digit has no separator before it. -/
theorem length_groupFrom_true (digits : List Char) :
    (groupFrom separator true digits).length =
      digits.length + (digits.length - 1) / 3 * separator.length := by
  cases digits with
  | nil => simp [groupFrom]
  | cons digit rest =>
    rw [groupFrom, List.length_append, List.length_cons, length_groupFrom_false]
    simp
    omega

/-- Grouping adds separators and nothing else. -/
theorem mem_groupFrom {c : Char} {first : Bool} {digits : List Char}
    (h : c ∈ groupFrom separator first digits) : c ∈ digits ∨ c ∈ separator := by
  induction digits generalizing first with
  | nil => simp [groupFrom] at h
  | cons digit rest ih =>
    rw [groupFrom, List.mem_append, List.mem_cons] at h
    rcases h with h | rfl | h
    · split at h
      · exact .inr h
      · cases h
    · exact .inl List.mem_cons_self
    · exact (ih h).imp (List.mem_cons_of_mem _) id

/-- What is written of a value's two parts was in the value. -/
theorem mem_splitPoint {c : Char} {value : List Char} :
    (c ∈ (splitPoint value).1 → c ∈ value) ∧
      ∀ digits ∈ (splitPoint value).2, c ∈ digits → c ∈ value := by
  unfold splitPoint
  split
  · refine ⟨fun h => (List.takeWhile_prefix _).subset h, ?_⟩
    rintro digits hdigits h
    rw [Option.mem_some_iff] at hdigits
    subst hdigits
    exact (List.dropWhile_suffix _).subset (List.mem_of_mem_tail h)
  · exact ⟨id, by simp⟩

variable (format : NumberFormat)

/-- What the amount is written with. -/
theorem mem_formatAmount {amount : Amount} {c : Char}
    (h : c ∈ (format.formatAmount amount).toList) :
    c ∈ amount.value.toList ∨ c ∈ amount.currency.toList ∨ c = ' ' ∨
      c ∈ format.thousandsSeparator.toList ∨ c ∈ format.decimalSeparator.toList := by
  obtain ⟨hwhole, hfraction⟩ := @mem_splitPoint c amount.value.toList
  unfold NumberFormat.formatAmount at h
  cases hsplit : splitPoint amount.value.toList with
  | mk whole fraction =>
  rw [hsplit] at h hwhole hfraction
  dsimp only at h hwhole hfraction
  have hgrouped : c ∈ groupFrom format.thousandsSeparator.toList true whole →
      c ∈ amount.value.toList ∨ c ∈ format.thousandsSeparator.toList :=
    fun hc => (mem_groupFrom hc).imp hwhole id
  -- An amount that does not split is shown as it is given.
  split at h
  · simp only [String.toList_append, List.mem_append] at h
    rcases h with (h | h) | h
    · exact .inl h
    · exact .inr (.inr (.inl (List.mem_singleton.mp h)))
    · exact .inr (.inl h)
  · simp only [String.toList_append, String.toList_ofList, List.mem_append] at h
    rcases h with (h | h) | h
    -- The whole part is grouped; a fraction follows its separator.
    · cases fraction with
      | none =>
        rcases hgrouped h with h | h
        · exact .inl h
        · exact .inr (.inr (.inr (.inl h)))
      | some digits =>
        rcases List.mem_append.mp h with h | h
        · rcases List.mem_append.mp h with h | h
          · rcases hgrouped h with h | h
            · exact .inl h
            · exact .inr (.inr (.inr (.inl h)))
          · exact .inr (.inr (.inr (.inr h)))
        · exact .inl (hfraction digits rfl h)
    · exact .inr (.inr (.inl (List.mem_singleton.mp h)))
    · exact .inr (.inl h)

/-- How long a plain integer gets. -/
theorem length_formatAmount {value currency : String} (h : isDigits value.toList = true) :
    (format.formatAmount ⟨value, currency⟩).length =
      value.length + (value.length - 1) / 3 * format.thousandsSeparator.length + 1 +
        currency.length := by
  have hsplit : splitPoint value.toList = (value.toList, none) := by
    have hpoint : '.' ∉ value.toList := by
      intro hmem
      have hdigit := List.all_eq_true.mp (Bool.and_eq_true_iff.mp h).2 '.' hmem
      exact absurd hdigit (by decide)
    rw [splitPoint, if_neg hpoint]
  unfold NumberFormat.formatAmount
  rw [hsplit]
  simp only [h, Bool.not_true, Option.any_none, Bool.or_self, Bool.false_eq_true, if_false]
  rw [String.length_append, String.length_append, String.length_ofList, length_groupFrom_true]
  rfl

/-- How long a value that is no plain decimal number gets. -/
theorem length_formatAmount_of_not_digits {value currency : String} (hpoint : '.' ∉ value.toList)
    (h : isDigits value.toList = false) :
    (format.formatAmount ⟨value, currency⟩).length = value.length + 1 + currency.length := by
  unfold NumberFormat.formatAmount
  rw [splitPoint, if_neg hpoint]
  simp only [h, Bool.not_false, Bool.true_or, if_true]
  rw [String.length_append, String.length_append]
  rfl

end amounts

/-! ## The catalog -/

/-- The only placeholder a template may use. -/
def amountPlaceholder : String := "\x7bamount\x7d"

/-- The end of the id of the form used when the amount is unknown. -/
def noAmountSuffix : String := "_noamount"

/-- The template sent before a party's first question. -/
def introId : String := "intro"

/-- Word lists for the template rules. -/
structure Words where
  /-- Allowed only in guidance. -/
  fundAction : List String
  /-- Allowed in no template. -/
  verdict : List String
  deriving DecidableEq, Repr

/-- One language's catalog. -/
structure Catalog where
  code : String
  /-- The language's English name. -/
  name : String
  format : NumberFormat
  words : Words
  templates : Std.TreeMap String String

/-- A character of Unicode's white space. -/
def isWhiteSpace (c : Char) : Bool :=
  (9 ≤ c.toNat && c.toNat ≤ 13) || (0x2000 ≤ c.toNat && c.toNat ≤ 0x200A) ||
    [0x20, 0x85, 0xA0, 0x1680, 0x2028, 0x2029, 0x202F, 0x205F, 0x3000].contains c.toNat

/-- A digit is no white space. -/
theorem isWhiteSpace_of_isDigit {c : Char} (h : c.isDigit = true) : isWhiteSpace c = false := by
  have hrange : 48 ≤ c.toNat ∧ c.toNat ≤ 57 := by
    simpa [Char.isDigit, UInt32.le_iff_toNat_le] using h
  simp only [isWhiteSpace, Bool.or_eq_false_iff, Bool.and_eq_false_iff, decide_eq_false_iff_not,
    List.contains_eq_mem, List.mem_cons, List.not_mem_nil, or_false]
  omega

/-- Nothing is left of the text once it is trimmed. -/
def isBlank (text : String) : Bool := text.toList.all isWhiteSpace

/-- The text holds the placeholder. -/
def usesAmount (text : String) : Bool := decide (amountPlaceholder.toList <:+: text.toList)

/-- The text with every placeholder replaced. -/
def replaceAmount (text replacement : String) : String :=
  String.ofList (substitute amountPlaceholder.toList replacement.toList text.toList)

/-- The text holds a brace. -/
def hasBrace (text : String) : Bool := text.toList.any fun c => c == '\x7b' || c == '\x7d'

/-- A text without braces has neither of them. -/
theorem hasBrace_eq_false {text : String} :
    hasBrace text = false ↔ ∀ c ∈ text.toList, c ≠ '\x7b' ∧ c ≠ '\x7d' := by
  simp [hasBrace, List.any_eq_false]

/-- The id is of a form without an amount. -/
def isNoAmount (id : String) : Bool := decide (noAmountSuffix.toList <:+ id.toList)

namespace Catalog

variable (catalog : Catalog)

/-- The raw text of a template. -/
def template (id : String) : Option String := catalog.templates[id]?

/-- Every template id, in order. -/
def templateIds : List String := catalog.templates.keys

/-- An error of the catalog's file. -/
def fail (what : String) : Except String Unit := .error s!"messages/{catalog.code}.toml: {what}"

/-- What a template's text may hold. -/
def checkTemplate (id text : String) : Except String Unit :=
  if isBlank text then catalog.fail s!"template {id} is empty"
  else if hasBrace (replaceAmount text "") then
    catalog.fail s!"template {id} uses a placeholder other than {amountPlaceholder}"
  else if isNoAmount id then
    if usesAmount text then catalog.fail s!"template {id} must not use {amountPlaceholder}"
    else .ok ()
  else if usesAmount text && !catalog.templates.contains (id ++ noAmountSuffix) then
    catalog.fail s!"template {id} uses {amountPlaceholder} but has no {id}{noAmountSuffix}"
  else .ok ()

/-- The check of a parsed file. -/
def check : Except String Unit :=
  if isBlank catalog.name then catalog.fail "name is empty"
  else catalog.templates.toList.forM fun entry => catalog.checkTemplate entry.1 entry.2

/-- Parses one catalog file; `fromToml` reads the file's format. -/
def parse (fromToml : String → Except String Catalog) (code text : String) :
    Except String Catalog :=
  match fromToml text with
  | .error failure => .error s!"messages/{code}.toml: {failure}"
  | .ok read =>
    let catalog := { read with code := code }
    match catalog.check with
    | .error failure => .error failure
    | .ok () => .ok catalog

/-! ## Rendering -/

/-- What rendering a template comes to if it takes at most this many calls: a template that needs an
amount and gets none is replaced by its form without one, in a call of its own. -/
def renderWithin (calls : Nat) (id : String) (amount : Option Amount) :
    Option (Except String String) :=
  match calls with
  | 0 => none
  | calls + 1 =>
    match catalog.template id with
    | none => some (.error s!"{catalog.code}: no template {id}")
    | some text =>
      if !usesAmount text then some (.ok text)
      else
        match amount with
        | some amount => some (.ok (replaceAmount text (catalog.format.formatAmount amount)))
        | none => renderWithin calls (id ++ noAmountSuffix) none

/-- More characters than the id of any template has. -/
def idBound : Nat := (catalog.templates.keys.map String.length).sum

/-- The id of a template is within the bound. -/
theorem length_le_idBound {id text : String} (h : catalog.template id = some text) :
    id.length ≤ catalog.idBound := by
  have hmem : id ∈ catalog.templates.keys :=
    Std.TreeMap.mem_keys.mpr (Std.TreeMap.mem_iff_isSome_getElem?.mpr (by rw [← template, h]; rfl))
  exact List.le_sum_of_mem (List.mem_map_of_mem hmem)

/-- Each form without an amount has a longer id, so there is an end to it. -/
theorem isSome_renderWithin {calls : Nat} {id : String} (amount : Option Amount)
    (h : catalog.idBound < calls + id.length) :
    (catalog.renderWithin (calls + 1) id amount).isSome = true := by
  induction calls generalizing id amount with
  | zero =>
    cases htext : catalog.template id with
    | none => simp [renderWithin, htext]
    | some text =>
      have := catalog.length_le_idBound htext
      omega
  | succ calls ih =>
    rw [renderWithin]
    cases htext : catalog.template id with
    | none => rfl
    | some text =>
      cases amount with
      | some amount => by_cases huses : usesAmount text <;> simp [huses]
      | none =>
        by_cases huses : usesAmount text
        · have hlonger : (id ++ noAmountSuffix).length = id.length + 9 := by
            rw [String.length_append]
            rfl
          simpa [huses] using ih none (by omega)
        · simp [huses]

/-- Renders a template. -/
def render (id : String) (amount : Option Amount) : Except String String :=
  (catalog.renderWithin (catalog.idBound + 1 + 1) id amount).get
    (isSome_renderWithin catalog amount (by omega))

/-- A party's first message: the intro, one blank line, then the question. -/
def renderOpening (question : String) (amount : Option Amount) : Except String String := do
  let intro ← catalog.render introId none
  let question ← catalog.render question amount
  return intro ++ "\n\n" ++ question

variable {catalog}

/-- More calls than enough come to the same. -/
theorem renderWithin_add {calls : Nat} {id : String} {amount : Option Amount}
    {result : Except String String} (h : catalog.renderWithin calls id amount = some result)
    (more : Nat) : catalog.renderWithin (calls + more) id amount = some result := by
  induction calls generalizing id amount with
  | zero => cases h
  | succ calls ih =>
    rw [Nat.succ_add, renderWithin]
    rw [renderWithin] at h
    cases htext : catalog.template id with
    | none => simpa [htext] using h
    | some text =>
      by_cases huses : usesAmount text
      · cases amount with
        | some amount => simpa [htext, huses] using h
        | none =>
          simp only [htext, huses, Bool.not_true, Bool.false_eq_true, if_false] at h ⊢
          exact ih h
      · simpa [htext, huses] using h

/-- Rendering comes to what enough calls come to. -/
theorem render_eq {calls : Nat} {id : String} {amount : Option Amount}
    {result : Except String String} (h : catalog.renderWithin calls id amount = some result) :
    catalog.render id amount = result := by
  have henough : catalog.idBound < catalog.idBound + 1 + id.length := by omega
  have hsome := isSome_renderWithin catalog amount henough
  obtain ⟨found, hfound⟩ := Option.isSome_iff_exists.mp hsome
  have hsame : found = result := by
    have hleft := renderWithin_add hfound calls
    have hright := renderWithin_add h (catalog.idBound + 1 + 1)
    rw [Nat.add_comm, hright] at hleft
    exact (Option.some.inj hleft).symm
  simp only [render, hfound, Option.get_some, hsame]

/-! ## What the check leaves -/

/-- What the check leaves of a template's text. -/
structure Clean (catalog : Catalog) (id text : String) : Prop where
  /-- Every brace is part of the placeholder. -/
  braces : hasBrace (replaceAmount text "") = false
  plain : isNoAmount id = true → usesAmount text = false
  /-- A text with the placeholder has a form without it. -/
  paired : isNoAmount id = false → usesAmount text = true →
    ∃ other, catalog.template (id ++ noAmountSuffix) = some other

/-- A template that passes its check has no placeholder but the amount's. -/
theorem clean_of_checkTemplate {id text : String} (h : catalog.checkTemplate id text = .ok ()) :
    catalog.Clean id text := by
  unfold checkTemplate at h
  split_ifs at h with hblank hbrace hform huses hpair <;> try cases h
  · exact ⟨by simpa using hbrace, fun _ => by simpa using huses, fun hplain => by simp_all⟩
  · refine ⟨by simpa using hbrace, fun hno => absurd hno hform, fun _ huses => ?_⟩
    have hcontains : catalog.templates.contains (id ++ noAmountSuffix) = true := by
      simpa [huses] using hpair
    exact Option.isSome_iff_exists.mp
      (by rw [template, ← Std.TreeMap.contains_eq_isSome_getElem?, hcontains])

/-- A walk of checks passes when each of them does. -/
theorem forM_eq_ok {α : Type} {check : α → Except String Unit} {list : List α}
    (h : list.forM check = .ok ()) : ∀ x ∈ list, check x = .ok () := by
  induction list with
  | nil => simp
  | cons first rest ih =>
    intro x hx
    change (check first).bind (fun _ => rest.forM check) = .ok () at h
    cases hfirst : check first with
    | error failure =>
      rw [hfirst] at h
      cases h
    | ok _ =>
      rw [hfirst] at h
      rcases List.mem_cons.mp hx with rfl | hx
      · exact hfirst
      · exact ih h x hx

/-- Every template of a checked catalog is clean. -/
theorem clean_of_check (h : catalog.check = .ok ()) {id text : String}
    (htext : catalog.template id = some text) : catalog.Clean id text := by
  unfold check at h
  split_ifs at h with hname
  · cases h
  · exact clean_of_checkTemplate (forM_eq_ok h (id, text)
      (Std.TreeMap.mem_toList_iff_getElem?_eq_some.mpr htext))

/-- What the parser accepts was checked. -/
theorem check_of_parse {fromToml : String → Except String Catalog} {code source : String}
    (h : parse fromToml code source = .ok catalog) : catalog.check = .ok () := by
  unfold parse at h
  split at h
  · cases h
  · dsimp only at h
    split at h
    · cases h
    · next hcheck =>
      cases h
      exact hcheck

/-- A file that reads well and passes the check is accepted. -/
theorem parse_of_check {fromToml : String → Except String Catalog} {code source : String}
    (hread : fromToml source = .ok catalog) (hcode : catalog.code = code)
    (hcheck : catalog.check = .ok ()) : parse fromToml code source = .ok catalog := by
  subst hcode
  simp only [parse, hread, hcheck]

end Catalog

end Serbero
