import Mathlib.Data.Nat.Digits.Defs
import Serbero.Catalog.Render

/-! # The template rules

What the rules report of a catalog, and what a catalog gives once they report nothing: each template
renders, with any amount or none, to a text that fits a phone. The rules try one amount only, the
longest. -/

namespace Serbero

open Substitute

/-- What the rules use of the language's own texts: lower case and word characters after Unicode, and
how a text is quoted. -/
structure Unicode where
  lowercase : String → String
  isAlphanumeric : Char → Bool
  quote : String → String

/-- Every party template. -/
def templateIds : List String :=
  [introId, "ask_buyer_sent", "ask_buyer_sent_simple", "ask_buyer_details", "ask_seller_received",
    "ask_seller_received_simple", "ask_seller_check_account", "what_happens_next", "thanks_waiting",
    "waiting_other_party", "reminder", "guide_arrived_seller", "guide_arrived_buyer",
    "guide_not_sent_buyer", "guide_not_sent_seller", "resolved_thanks", "hold_notice",
    "handoff_notice"]

/-- The beginning of the templates allowed to mention fund actions. -/
def guidePrefix : String := "guide_"

/-- The longest rendered template, in characters. -/
def maxChars : Nat := 450

/-- The longest amount a template may be rendered with. -/
def longestAmount : Amount := ⟨"18446744073709551615.99", "XXX"⟩

/-- The word stands at the start of a word somewhere in the rest of the text; `before` is the
character before it, and `skip` characters still belong to the last occurrence. -/
def startsWordFrom (isAlphanumeric : Char → Bool) (word : List Char) :
    Nat → Option Char → List Char → Bool
  | _, _, [] => false
  | skip + 1, _, c :: rest => startsWordFrom isAlphanumeric word skip (some c) rest
  | 0, before, c :: rest =>
    if word <+: c :: rest then
      before.all (fun last => !isAlphanumeric last) ||
        startsWordFrom isAlphanumeric word (word.length - 1) (some c) rest
    else startsWordFrom isAlphanumeric word 0 (some c) rest

namespace Unicode

variable (unicode : Unicode)

/-- The word starts a word of the text, ignoring case. -/
def containsWord (text word : String) : Bool :=
  let text := unicode.lowercase text
  let word := unicode.lowercase word
  !word.isEmpty && startsWordFrom unicode.isAlphanumeric word.toList 0 none text.toList

end Unicode

/-- The id without the end of a form that has no amount. -/
def baseId (id : String) : String :=
  if isNoAmount id then String.ofList (id.toList.take (id.length - noAmountSuffix.length)) else id

/-- Some entry is not blank. -/
def hasWords (words : List String) : Bool := words.any fun word => !isBlank word

namespace Catalog

variable (unicode : Unicode) (catalog : Catalog)

/-- The amount a template is probed with. -/
def probe (id : String) : Option Amount := if isNoAmount id then none else some longestAmount

/-- What is wrong with one template: fund actions outside guidance, a verdict, or too long a text. -/
def checkText (id text : String) : List String :=
  (if guidePrefix.toList <+: id.toList then []
    else (catalog.words.fundAction.filter (unicode.containsWord text)).map fun word =>
      s!"{catalog.code}: {id} mentions the fund action {unicode.quote word} outside guidance") ++
  ((catalog.words.verdict.filter (unicode.containsWord text)).map fun word =>
    s!"{catalog.code}: {id} uses the verdict word {unicode.quote word}") ++
  match catalog.render id (probe id) with
  | .ok rendered =>
    if rendered.length > maxChars then
      [s!"{catalog.code}: {id} is {rendered.length} characters (limit {maxChars})"]
    else []
  | .error _ => []

/-- What the rules report of one catalog. -/
def checkOne : List String :=
  let code := catalog.code
  ((Serbero.templateIds.filter fun id => (catalog.template id).isNone).map fun id =>
    s!"{code}: missing template {id}") ++
  ((catalog.templateIds.filter fun id => !Serbero.templateIds.contains (baseId id)).map fun id =>
    s!"{code}: unknown template {id}") ++
  (if hasWords catalog.words.fundAction then [] else [s!"{code}: no fund-action words"]) ++
  (if hasWords catalog.words.verdict then [] else [s!"{code}: no verdict words"]) ++
  (((catalog.words.fundAction ++ catalog.words.verdict).filter isBlank).map fun _ =>
    s!"{code}: blank entry in a word list") ++
  catalog.templateIds.flatMap fun id =>
    match catalog.template id with
    | some text => catalog.checkText unicode id text
    | none => []

end Catalog

/-- Every available catalog, by language code. -/
structure Catalogs where
  byCode : Std.TreeMap String Catalog

/-- What the rules report of the catalogs. -/
def Catalogs.check (unicode : Unicode) (catalogs : Catalogs) : List String :=
  catalogs.byCode.toList.flatMap fun entry => entry.2.checkOne unicode

/-! ## Amounts that are integers -/

/-- A 64-bit integer, signed or unsigned, as text, with a currency code of three letters; no brace is
a letter. -/
structure Amount.IsInteger (amount : Amount) : Prop where
  value : (∃ n : Nat, n < 2 ^ 64 ∧ amount.value = toString n) ∨
    ∃ n : Int, -2 ^ 63 ≤ n ∧ n < 2 ^ 63 ∧ amount.value = toString n
  currency : amount.currency.length = 3
  letters : hasBrace amount.currency = false

/-- An integer's text is the digits of a number, or those behind a minus. -/
theorem Amount.IsInteger.cases {amount : Amount} (h : amount.IsInteger) :
    ∃ n < 2 ^ 64, amount.value = n.repr ∨ amount.value = "-" ++ n.repr := by
  rcases h.value with ⟨n, hn, hvalue⟩ | ⟨n, hlow, hhigh, hvalue⟩
  · exact ⟨n, hn, .inl hvalue⟩
  · rw [Int.toString_eq_repr, Int.repr_eq_if] at hvalue
    split_ifs at hvalue with hsign
    · exact ⟨n.toNat, by omega, .inl hvalue⟩
    · exact ⟨(-n).toNat, by omega, .inr hvalue⟩

/-- The digits of a number are digits. -/
theorem isDigits_repr (n : Nat) : isDigits n.repr.toList = true := by
  rw [Nat.toList_repr, isDigits, Bool.and_eq_true_iff]
  constructor
  · simp [Nat.toDigits_ne_nil]
  · exact List.all_eq_true.mpr fun c hc => Nat.isDigit_of_mem_toDigits (by decide) (by decide) hc

/-- A 64-bit number has 20 digits at most. -/
theorem length_repr_le {n : Nat} (h : n < 2 ^ 64) : n.repr.length ≤ 20 :=
  (Nat.length_repr_le_iff (by decide)).mpr (by omega)

/-- A character that is no digit is not among them. -/
theorem not_mem_repr {c : Char} (hc : c.isDigit = false) (n : Nat) : c ∉ n.repr.toList := by
  intro hmem
  rw [Nat.toList_repr] at hmem
  rw [Nat.isDigit_of_mem_toDigits (by decide) (by decide) hmem] at hc
  cases hc

section integers

variable (format : NumberFormat) {amount : Amount}

/-- How long the longest amount gets: twenty digits in seven groups, and two more after the point. -/
theorem length_formatAmount_longestAmount :
    (format.formatAmount longestAmount).length =
      26 + 6 * format.thousandsSeparator.length + format.decimalSeparator.length := by
  have hsplit : splitPoint longestAmount.value.toList =
      ("18446744073709551615".toList, some "99".toList) := by decide
  have hwhole : isDigits "18446744073709551615".toList = true := by decide
  have hfraction : isDigits "99".toList = true := by decide
  unfold NumberFormat.formatAmount
  rw [hsplit]
  simp only [hwhole, hfraction, Option.any_some, Bool.not_true, Bool.or_self, Bool.false_eq_true,
    if_false, String.length_append, String.length_ofList, List.length_append,
    length_groupFrom_true, String.length_toList]
  have hdigits : "18446744073709551615".length = 20 := by decide
  have hcents : "99".length = 2 := by decide
  have hspace : " ".length = 1 := by decide
  have hcode : longestAmount.currency.length = 3 := by decide
  rw [hdigits, hcents, hspace, hcode]
  omega

/-- No integer is written longer than the longest amount. -/
theorem length_formatAmount_le (h : amount.IsInteger) :
    (format.formatAmount amount).length ≤ (format.formatAmount longestAmount).length := by
  obtain ⟨n, hn, hvalue⟩ := h.cases
  have hdigits := length_repr_le hn
  rw [length_formatAmount_longestAmount]
  rcases hvalue with hvalue | hvalue
  · have hlength := @length_formatAmount format amount.value amount.currency
      (by rw [hvalue]; exact isDigits_repr n)
    have hgroups : (amount.value.length - 1) / 3 * format.thousandsSeparator.length ≤
        6 * format.thousandsSeparator.length := by
      apply Nat.mul_le_mul_right
      rw [hvalue]
      omega
    rw [h.currency] at hlength
    rw [hvalue] at hlength hgroups
    rw [show amount = ⟨n.repr, amount.currency⟩ from by rw [← hvalue]]
    omega
  · have hminus : isDigits amount.value.toList = false := by
      rw [hvalue, String.toList_append]
      rfl
    have hpoint : '.' ∉ amount.value.toList := by
      rw [hvalue, String.toList_append, List.mem_append, not_or]
      exact ⟨by decide, not_mem_repr (by decide) n⟩
    have hlength := @length_formatAmount_of_not_digits format amount.value amount.currency
      hpoint hminus
    rw [h.currency, hvalue, String.length_append] at hlength
    rw [show amount = ⟨"-" ++ n.repr, amount.currency⟩ from by rw [← hvalue]]
    have hone : "-".length = 1 := by decide
    omega

/-- Neither the number nor the currency has a brace. -/
theorem hasBrace_formatAmount (h : amount.IsInteger)
    (hthousands : hasBrace format.thousandsSeparator = false)
    (hdecimal : hasBrace format.decimalSeparator = false) :
    hasBrace (format.formatAmount amount) = false := by
  obtain ⟨n, -, hvalue⟩ := h.cases
  have hrepr : hasBrace n.repr = false := by
    rw [hasBrace_eq_false]
    intro c hc
    constructor
    · rintro rfl
      exact not_mem_repr (by decide) n hc
    · rintro rfl
      exact not_mem_repr (by decide) n hc
  have hletters := h.letters
  rw [hasBrace_eq_false] at hrepr hletters hthousands hdecimal ⊢
  intro c hc
  rcases mem_formatAmount format hc with hc | hc | rfl | hc | hc
  · rcases hvalue with hvalue | hvalue
    · exact hrepr c (hvalue ▸ hc)
    · rw [hvalue, String.toList_append, List.mem_append] at hc
      rcases hc with hc | hc
      · rw [List.mem_singleton.mp hc]
        decide
      · exact hrepr c hc
  · exact hletters c hc
  · decide
  · exact hthousands c hc
  · exact hdecimal c hc

end integers

/-! ## What a checked catalog gives -/

section rendering

variable {catalog : Catalog} {id text : String} {amount : Option Amount}

/-- Filling the amount in adds no brace. -/
theorem hasBrace_replaceAmount {replacement : String}
    (hclean : hasBrace (replaceAmount text "") = false) (h : hasBrace replacement = false) :
    hasBrace (replaceAmount text replacement) = false := by
  rw [hasBrace_eq_false] at hclean h ⊢
  intro c hc
  rw [replaceAmount, String.toList_ofList] at hc
  rcases mem_substitute hc with hc | hc
  · exact hclean c (by rwa [replaceAmount, String.toList_ofList])
  · exact h c hc

/-- A text without the placeholder is what is left of it. -/
theorem replaceAmount_of_not_usesAmount {replacement : String} (h : usesAmount text = false) :
    replaceAmount text replacement = text := by
  rw [replaceAmount, substitute_eq_self (by simpa [usesAmount] using h), String.ofList_toList]

/-- A longer amount never makes the text shorter. -/
theorem length_replaceAmount_le {short long : String} (h : short.length ≤ long.length) :
    (replaceAmount text short).length ≤ (replaceAmount text long).length := by
  rw [replaceAmount, replaceAmount, String.length_ofList, String.length_ofList]
  exact length_substitute_le h

/-- What rendering needs of a catalog that the rules let pass. -/
structure Catalog.Passes (catalog : Catalog) : Prop where
  /-- Every template is there. -/
  complete : ∀ id ∈ Serbero.templateIds, ∃ text, catalog.template id = some text
  /-- Each probe is short enough. -/
  short : ∀ id text, catalog.template id = some text → ∀ rendered,
    catalog.render id (Catalog.probe id) = .ok rendered → rendered.length ≤ maxChars

/-- A text that passes its check is short, as it is rendered for the check. -/
theorem short_of_checkText {unicode : Unicode} (h : catalog.checkText unicode id text = [])
    {rendered : String} (hrendered : catalog.render id (Catalog.probe id) = .ok rendered) :
    rendered.length ≤ maxChars := by
  unfold Catalog.checkText at h
  have hlong := (List.append_eq_nil_iff.mp h).2
  rw [hrendered] at hlong
  by_contra hnot
  simp [Nat.lt_of_not_le hnot] at hlong

/-- What no violation of one catalog means for rendering. -/
theorem passes_of_checkOne {unicode : Unicode} (h : catalog.checkOne unicode = []) :
    catalog.Passes := by
  unfold Catalog.checkOne at h
  simp only [List.append_eq_nil_iff] at h
  obtain ⟨⟨⟨⟨⟨hmissing, -⟩, -⟩, -⟩, -⟩, htexts⟩ := h
  constructor
  · intro id hid
    have hsome := List.filter_eq_nil_iff.mp (List.map_eq_nil_iff.mp hmissing) id hid
    exact Option.ne_none_iff_exists'.mp (by simpa using hsome)
  · intro id text htext rendered hrendered
    have hmem : id ∈ catalog.templateIds :=
      Std.TreeMap.mem_keys.mpr (Std.TreeMap.mem_iff_isSome_getElem?.mpr (by
        rw [← Catalog.template, htext]; rfl))
    have hnone := List.flatMap_eq_nil_iff.mp htexts id hmem
    rw [htext] at hnone
    exact short_of_checkText hnone hrendered

/-- No template is a form without an amount. -/
theorem isNoAmount_of_mem_templateIds (h : id ∈ templateIds) : isNoAmount id = false := by
  revert id
  decide

/-- The suffix marks the form without an amount. -/
theorem isNoAmount_append : isNoAmount (id ++ noAmountSuffix) = true := by
  rw [isNoAmount, String.toList_append]
  exact decide_eq_true (List.suffix_append _ _)

/-- What a template renders to, and how. -/
structure Catalog.Renders (catalog : Catalog) (id : String) (amount : Option Amount)
    (rendered : String) : Prop where
  /-- It takes a second call at most, for the form without an amount. -/
  within : catalog.renderWithin 2 id amount = some (.ok rendered)
  short : rendered.length ≤ maxChars
  clean : hasBrace catalog.format.thousandsSeparator = false →
    hasBrace catalog.format.decimalSeparator = false → hasBrace rendered = false

/-- A template that holds no placeholder is its own text. -/
theorem renders_plain (hcheck : catalog.check = .ok ()) (hpasses : catalog.Passes)
    (htext : catalog.template id = some text) (huses : usesAmount text = false) :
    catalog.Renders id amount text := by
  have hone : ∀ amount, catalog.renderWithin 1 id amount = some (.ok text) := by
    intro amount
    simp [Catalog.renderWithin, htext, huses]
  refine ⟨Catalog.renderWithin_add (hone amount) 1, ?_, fun _ _ => ?_⟩
  · exact hpasses.short id text htext text (Catalog.render_eq (hone _))
  · have hclean := (Catalog.clean_of_check hcheck htext).braces
    rwa [replaceAmount_of_not_usesAmount huses] at hclean

/-- Each required template renders, with an amount or without. -/
theorem renders_of_mem (hcheck : catalog.check = .ok ()) (hpasses : catalog.Passes)
    (hid : id ∈ templateIds) (hamount : ∀ given ∈ amount, given.IsInteger) :
    ∃ rendered, catalog.Renders id amount rendered := by
  obtain ⟨text, htext⟩ := hpasses.complete id hid
  have hform := isNoAmount_of_mem_templateIds hid
  have hclean := Catalog.clean_of_check hcheck htext
  cases huses : usesAmount text with
  | false => exact ⟨text, renders_plain hcheck hpasses htext huses⟩
  | true =>
    cases amount with
    | some given =>
      have hinteger := hamount given rfl
      have hone : ∀ amount, catalog.renderWithin 1 id (some amount) =
          some (.ok (replaceAmount text (catalog.format.formatAmount amount))) := by
        intro amount
        simp [Catalog.renderWithin, htext, huses]
      refine ⟨_, Catalog.renderWithin_add (hone given) 1, ?_, fun hthousands hdecimal => ?_⟩
      · have hprobe : catalog.render id (Catalog.probe id) =
            .ok (replaceAmount text (catalog.format.formatAmount longestAmount)) := by
          rw [Catalog.probe, hform]
          exact Catalog.render_eq (hone longestAmount)
        calc (replaceAmount text (catalog.format.formatAmount given)).length
            ≤ (replaceAmount text (catalog.format.formatAmount longestAmount)).length :=
              length_replaceAmount_le (length_formatAmount_le catalog.format hinteger)
          _ ≤ maxChars := hpasses.short id text htext _ hprobe
      · apply hasBrace_replaceAmount hclean.braces
        exact hasBrace_formatAmount catalog.format hinteger hthousands hdecimal
    | none =>
      obtain ⟨other, hother⟩ := hclean.paired hform huses
      have hplain := (Catalog.clean_of_check hcheck hother).plain isNoAmount_append
      obtain ⟨-, hshort, hbraces⟩ := @renders_plain _ _ _ none hcheck hpasses hother hplain
      refine ⟨other, ?_, hshort, hbraces⟩
      simp [Catalog.renderWithin, htext, huses, hother, hplain]

/-- No text without braces holds the placeholder. -/
theorem usesAmount_of_hasBrace (h : hasBrace text = false) : usesAmount text = false := by
  apply decide_eq_false
  intro hinfix
  have hmem : '\x7b' ∈ text.toList := hinfix.subset (by decide)
  exact (hasBrace_eq_false.mp h _ hmem).1 rfl

end rendering

/-! ## A catalog of few words -/

/-- The templates of a catalog of few words. -/
def terseTemplates : List (String × String) :=
  [("ask_buyer_sent", "Sent \x7bamount\x7d?"), ("ask_buyer_sent_noamount", "Sent?")] ++
    (templateIds.erase "ask_buyer_sent").map fun id => (id, "Thanks.")

/-- A catalog of few words. -/
def terse : Catalog :=
  { code := "en"
    name := "English"
    format := ⟨",", "."⟩
    words := ⟨["release"], ["guilty"]⟩
    templates := Std.TreeMap.ofList terseTemplates }

/-- The file it is read from. -/
def terseSource : String :=
  "name = \"English\"\n[format]\nthousands_separator = \",\"\ndecimal_separator = \".\"\n" ++
    "[words]\nfund_action = [\"release\"]\nverdict = [\"guilty\"]\n[templates]\n" ++
    String.join (terseTemplates.map fun entry => entry.1 ++ " = \"" ++ entry.2 ++ "\"\n")

/-- What reading a file gives, of the one file there is. -/
def readTerse (source : String) : Except String Catalog :=
  if source = terseSource then .ok terse else .error "cannot be read"

/-- Unicode, as far as it is ASCII. -/
def ascii : Unicode where
  lowercase text := String.ofList (text.toList.map Char.toLower)
  isAlphanumeric := Char.isAlphanum
  quote text := "\"" ++ text ++ "\""

/-- The example's source is read as its catalog. -/
theorem parse_terse : Catalog.parse readTerse "en" terseSource = .ok terse :=
  Catalog.parse_of_check (if_pos rfl) rfl (by decide +kernel)

/-! ## Every template renders -/

/-- A catalog that the parser accepts and the rules report nothing of renders every template, with a
64-bit integer or without an amount, and never asks for a second form. -/
theorem checked_catalog_renders {fromToml : String → Except String Catalog} {unicode : Unicode}
    {catalogs : Catalogs} {catalog : Catalog} {code source id : String} {amount : Option Amount}
    (hparse : Catalog.parse fromToml code source = .ok catalog)
    (hcode : catalogs.byCode[code]? = some catalog) (hrules : catalogs.check unicode = [])
    (hid : id ∈ templateIds) (hamount : ∀ given ∈ amount, given.IsInteger) :
    ∃ intro text : String,
      catalog.renderWithin 2 introId none = some (.ok intro) ∧
      catalog.renderWithin 2 id amount = some (.ok text) ∧
      catalog.render id amount = .ok text ∧
      catalog.renderOpening id amount = .ok (intro ++ "\n\n" ++ text) ∧
      intro.length ≤ maxChars ∧ text.length ≤ maxChars ∧
      (hasBrace catalog.format.thousandsSeparator = false →
        hasBrace catalog.format.decimalSeparator = false →
        hasBrace (intro ++ "\n\n" ++ text) = false ∧
          usesAmount (intro ++ "\n\n" ++ text) = false) := by
  have hcheck := Catalog.check_of_parse hparse
  have hpasses : catalog.Passes := by
    apply @passes_of_checkOne catalog unicode
    exact List.flatMap_eq_nil_iff.mp hrules (code, catalog)
      (Std.TreeMap.mem_toList_iff_getElem?_eq_some.mpr hcode)
  obtain ⟨intro, hintro⟩ := @renders_of_mem catalog introId none hcheck hpasses (by decide) (by simp)
  obtain ⟨text, htext⟩ := renders_of_mem hcheck hpasses hid hamount
  have hrender := Catalog.render_eq htext.within
  refine ⟨intro, text, hintro.within, htext.within, hrender, ?_, hintro.short, htext.short, ?_⟩
  · rw [Catalog.renderOpening, Catalog.render_eq hintro.within, hrender]
    rfl
  · intro hthousands hdecimal
    -- Neither text has a brace, so the two together have none.
    have hclean : hasBrace (intro ++ "\n\n" ++ text) = false := by
      have hfirst := hintro.clean hthousands hdecimal
      have hlast := htext.clean hthousands hdecimal
      simp only [hasBrace, String.toList_append, List.any_append] at hfirst hlast ⊢
      rw [hfirst, hlast]
      rfl
    exact ⟨hclean, usesAmount_of_hasBrace hclean⟩

/-- Asked without an amount, the buyer is sent the form that has none. -/
theorem checked_catalog_renders_terse :
    ∃ intro text : String,
      terse.renderWithin 2 introId none = some (.ok intro) ∧
      terse.renderWithin 2 "ask_buyer_sent" none = some (.ok text) ∧
      terse.render "ask_buyer_sent" none = .ok text ∧
      terse.renderOpening "ask_buyer_sent" none = .ok (intro ++ "\n\n" ++ text) ∧
      intro.length ≤ maxChars ∧ text.length ≤ maxChars ∧
      (hasBrace terse.format.thousandsSeparator = false →
        hasBrace terse.format.decimalSeparator = false →
        hasBrace (intro ++ "\n\n" ++ text) = false ∧
          usesAmount (intro ++ "\n\n" ++ text) = false) :=
  checked_catalog_renders parse_terse
    (by simp : (⟨Std.TreeMap.ofList [("en", terse)]⟩ : Catalogs).byCode["en"]? = some terse)
    (by decide +kernel : Catalogs.check ascii ⟨Std.TreeMap.ofList [("en", terse)]⟩ = [])
    (by decide) (by simp)

end Serbero
