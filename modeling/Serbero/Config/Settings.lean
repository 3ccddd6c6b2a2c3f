import Mathlib.Data.List.Nodup
import Serbero.Catalog.Render
import Serbero.Judge.Questions
import Serbero.Lib.Checks
import Serbero.Runtime.World

/-! # The configuration

What `config.toml` may say. It is read into these tables by the TOML library, field by field; here is
what is asked of them before anything starts, in the order it is asked. Durations are in seconds. -/

namespace Serbero

/-- What is asked of the library of the curve: which texts name a point of it, and the public key of a
secret key, in hex. -/
structure Curve where
  isPublicKey : String → Bool
  publicKeyOf : String → Option String

/-! ## The tables -/

/-- `[serbero]`, without what no check reads. -/
structure ServerConfig where
  privateKeyEnv : String
  deriving DecidableEq, Repr

/-- `[mostro]` -/
structure MostroConfig where
  pubkey : String
  relays : List String
  deriving DecidableEq, Repr

/-- `[[solvers]]` -/
structure SolverConfig where
  pubkey : String
  permission : Permission
  deriving DecidableEq, Repr

/-- `[[observers]]` -/
structure ObserverConfig where
  pubkey : String
  deriving DecidableEq, Repr

/-- `[notify]` -/
structure NotifyConfig where
  renotifyAfter : Nat
  deriving DecidableEq, Repr

/-- `[mediation]` -/
structure MediationConfig where
  enabled : Bool
  defaultLanguage : String
  languages : List String
  quietPeriod : Nat
  responseTimeout : Nat
  maxRounds : Nat
  maxMessageChars : Nat
  maxMessagesPerTurn : Nat
  selfResolutionTimeout : Nat
  handoffGrace : Nat
  deriving DecidableEq, Repr

/-- `[judge]`, without the address of the provider. -/
structure JudgeConfig where
  provider : String
  model : String
  apiKeyEnv : String
  timeout : Nat
  maxRetries : Nat
  /-- Calibrated thresholds keyed by `"<provider>/<model>"`. -/
  thresholds : Std.TreeMap String Thresholds

/-- The file. -/
structure Config where
  serbero : ServerConfig
  mostro : MostroConfig
  solvers : List SolverConfig
  observers : List ObserverConfig
  notify : NotifyConfig
  mediation : MediationConfig
  judge : JudgeConfig

def ServerConfig.default : ServerConfig := ⟨"SERBERO_PRIVATE_KEY"⟩

def NotifyConfig.default : NotifyConfig := ⟨15 * 60⟩

def MediationConfig.default : MediationConfig where
  enabled := false
  defaultLanguage := "en"
  languages := embeddedCodes
  quietPeriod := 20
  responseTimeout := 30 * 60
  maxRounds := 4
  maxMessageChars := 2000
  maxMessagesPerTurn := 10
  selfResolutionTimeout := 2 * 3600
  handoffGrace := 30 * 60

def JudgeConfig.default : JudgeConfig where
  provider := "typesafe"
  model := "jev-1.13.0"
  apiKeyEnv := "TYPESAFE_API_KEY"
  timeout := 10
  maxRetries := 3
  thresholds := ∅

/-- The key thresholds are stored under. -/
def JudgeConfig.judgeKey (judge : JudgeConfig) : String := judge.provider ++ "/" ++ judge.model

/-- The thresholds calibrated for the configured provider and model, if any. -/
def JudgeConfig.activeThresholds (judge : JudgeConfig) : Option Thresholds :=
  judge.thresholds[judge.judgeKey]?

/-- The values of a thresholds table, by name. -/
def Thresholds.named (thresholds : Thresholds) : List (String × ℚ) :=
  [("guide", thresholds.guide), ("fact", thresholds.fact),
    ("human_request", thresholds.humanRequest), ("fraud", thresholds.fraud),
    ("conflict", thresholds.conflict), ("outside_scope", thresholds.outsideScope)]

/-! ## What is asked of a value -/

/-- A key of 64 hexadecimal digits. -/
def IsHexKey (value : String) : Prop :=
  value.toList.length = 64 ∧ value.toList.all isHexDigit = true

instance (value : String) : Decidable (IsHexKey value) := inferInstanceAs (Decidable (_ ∧ _))

/-- A public key in hex. -/
def Curve.IsPubkey (curve : Curve) (value : String) : Prop :=
  IsHexKey value ∧ curve.isPublicKey value = true

instance (curve : Curve) (value : String) : Decidable (curve.IsPubkey value) :=
  inferInstanceAs (Decidable (_ ∧ _))

/-- The name of an environment variable: letters, digits and underscores, no digit first. -/
def IsEnvName (value : String) : Prop :=
  value.toList ≠ [] ∧ value.toList.head?.any Char.isDigit = false ∧
    (value.toList.all fun c => c.isAlphanum || c == '_') = true

instance (value : String) : Decidable (IsEnvName value) := inferInstanceAs (Decidable (_ ∧ _ ∧ _))

/-- The address of a relay. -/
def IsRelay (relay : String) : Prop :=
  "wss://".toList <+: relay.toList ∨ "ws://".toList <+: relay.toList

instance (relay : String) : Decidable (IsRelay relay) := inferInstanceAs (Decidable (_ ∨ _))

/-- A text without its letters' case, as far as ASCII has one. -/
def caseless (value : String) : List Char := value.toList.map Char.toLower

/-- Judge providers Serbero ships adapters for. -/
def knownProviders : List String := ["typesafe", "recorded"]

/-! ## The checks -/

/-- What is wrong with a field. -/
inductive Fault
  | envName (value : String)
  | pubkey (value : String)
  | noRelay
  | relay (relay : String)
  | isMostro
  | isSolver
  | isListed
  | isSerbero
  | zero
  | noLanguage
  | languageListed (code : String)
  | noCatalog (code : String)
  | defaultLanguage (code : String)
  | provider (name : String)
  | noModel
  | notShare (value : ℚ)
  | notAboveHalf (value : ℚ)
  deriving DecidableEq, Repr

/-- Why a configuration is refused: the field, and what is wrong with it. -/
structure ConfigError where
  field : String
  fault : Fault
  deriving DecidableEq, Repr

def checkEnvName (field value : String) : Except ConfigError Unit :=
  Checks.ensure (IsEnvName value) ⟨field, .envName value⟩

def checkPubkey (curve : Curve) (field value : String) : Except ConfigError Unit :=
  Checks.ensure (curve.IsPubkey value) ⟨field, .pubkey value⟩

def checkNonZero (field : String) (value : Nat) : Except ConfigError Unit :=
  Checks.ensure (0 < value) ⟨field, .zero⟩

/-- The field of the key of a list's entry. -/
def pubkeyField (list : String) (i : Nat) : String := s!"{list}[{i}].pubkey"

/-- The field of a thresholds table. -/
def thresholdField (key name : String) : String := "judge.thresholds.\"" ++ key ++ "\"." ++ name

def Config.validateObservers (curve : Curve) (config : Config) : Except ConfigError Unit :=
  Checks.run <| config.observers.mapIdx fun i observer =>
    let field := pubkeyField "observers" i
    Checks.run
      [checkPubkey curve field observer.pubkey,
        Checks.ensure (caseless config.mostro.pubkey ≠ caseless observer.pubkey) ⟨field, .isMostro⟩,
        -- A solver already gets every message in full.
        Checks.ensure (∀ solver ∈ config.solvers, caseless solver.pubkey ≠ caseless observer.pubkey)
          ⟨field, .isSolver⟩,
        Checks.ensure
          (∀ earlier ∈ config.observers.take i, caseless earlier.pubkey ≠ caseless observer.pubkey)
          ⟨field, .isListed⟩]

def MediationConfig.validate (mediation : MediationConfig) : Except ConfigError Unit :=
  Checks.run <|
    [Checks.ensure (mediation.languages ≠ []) ⟨"mediation.languages", .noLanguage⟩] ++
    (mediation.languages.mapIdx fun i code =>
      Checks.run
        -- A repeated code would become a repeated option of a language question.
        [Checks.ensure (code ∉ mediation.languages.take i)
            ⟨"mediation.languages", .languageListed code⟩,
          Checks.ensure (code ∈ embeddedCodes) ⟨"mediation.languages", .noCatalog code⟩]) ++
    [Checks.ensure (mediation.defaultLanguage ∈ mediation.languages)
        ⟨"mediation.default_language", .defaultLanguage mediation.defaultLanguage⟩,
      checkNonZero "mediation.quiet_period" mediation.quietPeriod,
      checkNonZero "mediation.response_timeout" mediation.responseTimeout,
      checkNonZero "mediation.self_resolution_timeout" mediation.selfResolutionTimeout,
      checkNonZero "mediation.max_rounds" mediation.maxRounds,
      checkNonZero "mediation.max_message_chars" mediation.maxMessageChars,
      checkNonZero "mediation.max_messages_per_turn" mediation.maxMessagesPerTurn]

/-- What `validate_judge` asks of one thresholds table. -/
def checkThresholds (key : String) (thresholds : Thresholds) : Except ConfigError Unit :=
  Checks.run <|
    (thresholds.named.map fun entry =>
      Checks.ensure (0 < entry.2 ∧ entry.2 ≤ 1) ⟨thresholdField key entry.1, .notShare entry.2⟩) ++
    (thresholds.validatedLanguages.map fun code =>
      Checks.ensure (code ∈ embeddedCodes)
        ⟨thresholdField key "validated_languages", .noCatalog code⟩) ++
    -- Above one half, two options of the same question can never both be known.
    ([("guide", thresholds.guide), ("fact", thresholds.fact)].map fun entry =>
      Checks.ensure (1 / 2 < entry.2) ⟨thresholdField key entry.1, .notAboveHalf entry.2⟩)

def JudgeConfig.validate (judge : JudgeConfig) : Except ConfigError Unit :=
  Checks.run <|
    [Checks.ensure (judge.provider ∈ knownProviders) ⟨"judge.provider", .provider judge.provider⟩,
      Checks.ensure (isBlank judge.model = false) ⟨"judge.model", .noModel⟩,
      checkNonZero "judge.timeout" judge.timeout] ++
    judge.thresholds.toList.map fun entry => checkThresholds entry.1 entry.2

/-- Everything that is asked of the file, in order, up to the first fault. -/
def Config.validate (curve : Curve) (config : Config) : Except ConfigError Unit :=
  Checks.run <|
    [checkEnvName "serbero.private_key_env" config.serbero.privateKeyEnv,
      checkEnvName "judge.api_key_env" config.judge.apiKeyEnv,
      checkPubkey curve "mostro.pubkey" config.mostro.pubkey,
      Checks.ensure (config.mostro.relays ≠ []) ⟨"mostro.relays", .noRelay⟩] ++
    (config.mostro.relays.map fun relay =>
      Checks.ensure (IsRelay relay) ⟨"mostro.relays", .relay relay⟩) ++
    (config.solvers.mapIdx fun i solver =>
      checkPubkey curve (pubkeyField "solvers" i) solver.pubkey) ++
    [config.validateObservers curve, checkNonZero "notify.renotify_after" config.notify.renotifyAfter,
      config.mediation.validate, config.judge.validate]

/-- What is asked once the private key is known: Serbero does not message itself. -/
def Config.checkNotSerbero (config : Config) (serbero : String) : Except ConfigError Unit :=
  Checks.run <|
    (config.solvers.mapIdx fun i solver =>
      Checks.ensure (caseless solver.pubkey ≠ caseless serbero)
        ⟨pubkeyField "solvers" i, .isSerbero⟩) ++
    config.observers.mapIdx fun i observer =>
      Checks.ensure (caseless observer.pubkey ≠ caseless serbero)
        ⟨pubkeyField "observers" i, .isSerbero⟩

/-! ## What is accepted -/

/-- The settings of `[mediation]` that a session needs. -/
def MediationConfig.settings (mediation : MediationConfig) : Settings where
  enabled := mediation.enabled
  defaultLanguage := mediation.defaultLanguage
  languages := mediation.languages
  maxRounds := mediation.maxRounds
  maxMessageChars := mediation.maxMessageChars
  maxMessagesPerTurn := mediation.maxMessagesPerTurn
  responseTimeout := mediation.responseTimeout
  selfResolutionTimeout := mediation.selfResolutionTimeout
  handoffGrace := mediation.handoffGrace

/-- Languages a party can be asked for and answered in, and limits that leave room for an answer. -/
structure MediationConfig.Valid (mediation : MediationConfig) : Prop where
  languages : EnabledLanguages mediation.languages
  default_mem : mediation.defaultLanguage ∈ mediation.languages
  quietPeriod_pos : 0 < mediation.quietPeriod
  responseTimeout_pos : 0 < mediation.responseTimeout
  selfResolutionTimeout_pos : 0 < mediation.selfResolutionTimeout
  maxRounds_pos : 0 < mediation.maxRounds
  maxMessageChars_pos : 0 < mediation.maxMessageChars
  maxMessagesPerTurn_pos : 0 < mediation.maxMessagesPerTurn

/-- A known provider, and thresholds that tell the options of a question apart. -/
structure JudgeConfig.Valid (judge : JudgeConfig) : Prop where
  provider_mem : judge.provider ∈ knownProviders
  model : isBlank judge.model = false
  timeout_pos : 0 < judge.timeout
  thresholds : ∀ (key : String) (thresholds : Thresholds), judge.thresholds[key]? = some thresholds →
    thresholds.Valid ∧ ∀ code ∈ thresholds.validatedLanguages, code ∈ embeddedCodes

/-- The keys of those who are written to. -/
structure Config.KeysValid (curve : Curve) (config : Config) : Prop where
  mostro : curve.IsPubkey config.mostro.pubkey
  solvers : ∀ solver ∈ config.solvers, curve.IsPubkey solver.pubkey
  observers : ∀ observer ∈ config.observers, curve.IsPubkey observer.pubkey
  /-- No observer is the node or a solver, and none is listed twice, however the keys are spelled. -/
  observers_mostro : ∀ observer ∈ config.observers,
    caseless config.mostro.pubkey ≠ caseless observer.pubkey
  observers_solvers : ∀ observer ∈ config.observers, ∀ solver ∈ config.solvers,
    caseless solver.pubkey ≠ caseless observer.pubkey
  observers_nodup : (config.observers.map fun observer => caseless observer.pubkey).Nodup

/-- A configuration Serbero can start with. -/
structure Config.Valid (curve : Curve) (config : Config) : Prop where
  privateKeyEnv : IsEnvName config.serbero.privateKeyEnv
  apiKeyEnv : IsEnvName config.judge.apiKeyEnv
  relays_nonempty : config.mostro.relays ≠ []
  relays : ∀ relay ∈ config.mostro.relays, IsRelay relay
  keys : config.KeysValid curve
  renotifyAfter_pos : 0 < config.notify.renotifyAfter
  mediation : config.mediation.Valid
  judge : config.judge.Valid

variable {curve : Curve} {config : Config}

/-- In order, each language is new and has a catalog. -/
theorem enabledLanguages_iff {languages : List String} :
    EnabledLanguages languages ↔
      languages ≠ [] ∧ ∀ i, ∀ h : i < languages.length,
        languages[i] ∉ languages.take i ∧ languages[i] ∈ embeddedCodes := by
  have hnodup := Checks.nodup_map_iff_take languages id
  rw [List.map_id] at hnodup
  constructor
  · intro enabled
    refine ⟨enabled.nonempty, fun i h => ⟨fun hmem => ?_, enabled.embedded _ (List.getElem_mem h)⟩⟩
    exact hnodup.mp enabled.nodup i h _ hmem rfl
  · rintro ⟨hne, hcodes⟩
    refine ⟨hne, hnodup.mpr fun i h earlier hearlier heq => ?_, fun code hcode => ?_⟩
    · have hsame : earlier = languages[i] := heq
      exact (hcodes i h).1 (hsame ▸ hearlier)
    · obtain ⟨i, h, rfl⟩ := List.getElem_of_mem hcode
      exact (hcodes i h).2

/-- The mediation settings pass their check when they are valid. -/
theorem MediationConfig.validate_eq_ok {mediation : MediationConfig} :
    mediation.validate = .ok () ↔ mediation.Valid := by
  unfold MediationConfig.validate checkNonZero
  simp only [Checks.run_eq_ok, List.forall_mem_append, List.forall_mem_cons, List.not_mem_nil,
    false_implies, implies_true, and_true, Checks.ensure_eq_ok, Checks.forall_mem_mapIdx]
  constructor
  · -- The checks come in the order of the fields.
    rintro ⟨hlanguages, hdefault, hquiet, hresponse, hself, hrounds, hchars, hturn⟩
    exact ⟨enabledLanguages_iff.mpr hlanguages, hdefault, hquiet, hresponse, hself, hrounds, hchars,
      hturn⟩
  · intro valid
    exact ⟨enabledLanguages_iff.mp valid.languages, valid.default_mem, valid.quietPeriod_pos,
      valid.responseTimeout_pos, valid.selfResolutionTimeout_pos, valid.maxRounds_pos,
      valid.maxMessageChars_pos, valid.maxMessagesPerTurn_pos⟩

/-- The thresholds of a judge's key pass theirs, and the languages are ones Serbero writes. -/
theorem checkThresholds_eq_ok {key : String} {thresholds : Thresholds} :
    checkThresholds key thresholds = .ok () ↔
      thresholds.Valid ∧ ∀ code ∈ thresholds.validatedLanguages, code ∈ embeddedCodes := by
  unfold checkThresholds Thresholds.named
  simp only [Checks.run_eq_ok, List.forall_mem_append, List.forall_mem_map, List.forall_mem_cons,
    List.not_mem_nil, false_implies, implies_true, and_true, Checks.ensure_eq_ok]
  constructor
  · rintro ⟨⟨⟨hguide, hfact, hhuman, hfraud, hconflict, houtside⟩, hcodes⟩, hhalf, hhalf'⟩
    exact ⟨⟨hguide.2, hfact.2, hhuman.1, hhuman.2, hfraud.1, hfraud.2, hconflict.1, hconflict.2,
      houtside.1, houtside.2, hhalf, hhalf'⟩, hcodes⟩
  · rintro ⟨valid, hcodes⟩
    exact ⟨⟨⟨⟨valid.guide_pos, valid.guide_le⟩, ⟨valid.fact_pos, valid.fact_le⟩,
      ⟨valid.humanRequest_pos, valid.humanRequest_le⟩, ⟨valid.fraud_pos, valid.fraud_le⟩,
      ⟨valid.conflict_pos, valid.conflict_le⟩, ⟨valid.outsideScope_pos, valid.outsideScope_le⟩⟩,
      hcodes⟩, valid.half_lt_guide, valid.half_lt_fact⟩

/-- Every value of a valid table is a share. -/
theorem Thresholds.Valid.share {thresholds : Thresholds} (valid : thresholds.Valid) {name : String}
    {value : ℚ} (hmem : (name, value) ∈ thresholds.named) : 0 < value ∧ value ≤ 1 := by
  simp only [Thresholds.named, List.mem_cons, Prod.mk.injEq, List.not_mem_nil, or_false] at hmem
  rcases hmem with ⟨-, rfl⟩ | ⟨-, rfl⟩ | ⟨-, rfl⟩ | ⟨-, rfl⟩ | ⟨-, rfl⟩ | ⟨-, rfl⟩
  · exact ⟨valid.guide_pos, valid.guide_le⟩
  · exact ⟨valid.fact_pos, valid.fact_le⟩
  · exact ⟨valid.humanRequest_pos, valid.humanRequest_le⟩
  · exact ⟨valid.fraud_pos, valid.fraud_le⟩
  · exact ⟨valid.conflict_pos, valid.conflict_le⟩
  · exact ⟨valid.outsideScope_pos, valid.outsideScope_le⟩

/-- Those that tell the options of a choice apart are above one half. -/
theorem Thresholds.Valid.half {thresholds : Thresholds} (valid : thresholds.Valid) {name : String}
    {value : ℚ} (hmem : (name, value) ∈ thresholds.named) (hname : name ∈ ["guide", "fact"]) :
    1 / 2 < value := by
  simp only [Thresholds.named, List.mem_cons, Prod.mk.injEq, List.not_mem_nil, or_false] at hmem
  rcases hmem with ⟨-, rfl⟩ | ⟨-, rfl⟩ | ⟨rfl, -⟩ | ⟨rfl, -⟩ | ⟨rfl, -⟩ | ⟨rfl, -⟩
  · exact valid.half_lt_guide
  · exact valid.half_lt_fact
  all_goals simp at hname

/-- The judge's settings pass theirs. -/
theorem JudgeConfig.validate_eq_ok {judge : JudgeConfig} :
    judge.validate = .ok () ↔ judge.Valid := by
  unfold JudgeConfig.validate checkNonZero
  simp only [Checks.run_eq_ok, List.forall_mem_append, List.forall_mem_map, List.forall_mem_cons,
    List.not_mem_nil, false_implies, implies_true, and_true, Checks.ensure_eq_ok,
    checkThresholds_eq_ok]
  constructor
  · rintro ⟨⟨hprovider, hmodel, htimeout⟩, hthresholds⟩
    refine ⟨hprovider, hmodel, htimeout, fun key thresholds hfound => ?_⟩
    exact hthresholds (key, thresholds) (Std.TreeMap.mem_toList_iff_getElem?_eq_some.mpr hfound)
  · intro valid
    refine ⟨⟨valid.provider_mem, valid.model, valid.timeout_pos⟩, fun entry hentry => ?_⟩
    exact valid.thresholds entry.1 entry.2 (Std.TreeMap.mem_toList_iff_getElem?_eq_some.mp hentry)

/-- The keys are those of the node, the solvers and the observers, checked in this order. -/
theorem Config.keysValid_iff :
    config.KeysValid curve ↔
      curve.IsPubkey config.mostro.pubkey ∧
        (∀ i, ∀ h : i < config.solvers.length, curve.IsPubkey config.solvers[i].pubkey) ∧
          config.validateObservers curve = .ok () := by
  have hnodup := Checks.nodup_map_iff_take config.observers
    fun observer => caseless observer.pubkey
  unfold Config.validateObservers checkPubkey
  simp only [Checks.run_eq_ok, Checks.forall_mem_mapIdx, List.forall_mem_cons, List.not_mem_nil,
    false_implies, implies_true, and_true, Checks.ensure_eq_ok]
  constructor
  · intro valid
    refine ⟨valid.mostro, fun i h => valid.solvers _ (List.getElem_mem h), fun i h => ?_⟩
    exact ⟨valid.observers _ (List.getElem_mem h), valid.observers_mostro _ (List.getElem_mem h),
      valid.observers_solvers _ (List.getElem_mem h), hnodup.mp valid.observers_nodup i h⟩
  · rintro ⟨hmostro, hsolvers, hobservers⟩
    -- What holds at each index holds of each observer.
    have hall : ∀ observer ∈ config.observers, curve.IsPubkey observer.pubkey ∧
        caseless config.mostro.pubkey ≠ caseless observer.pubkey ∧
          ∀ solver ∈ config.solvers, caseless solver.pubkey ≠ caseless observer.pubkey := by
      intro observer hobserver
      obtain ⟨i, h, rfl⟩ := List.getElem_of_mem hobserver
      obtain ⟨hkey, hnode, hsolver, -⟩ := hobservers i h
      exact ⟨hkey, hnode, hsolver⟩
    refine ⟨hmostro, fun solver hsolver => ?_, fun observer h => (hall observer h).1,
      fun observer h => (hall observer h).2.1, fun observer h => (hall observer h).2.2,
      hnodup.mpr fun i h => (hobservers i h).2.2.2⟩
    obtain ⟨i, h, rfl⟩ := List.getElem_of_mem hsolver
    exact hsolvers i h

/-- **The configurations that are accepted** are the valid ones. -/
theorem Config.validate_eq_ok : config.validate curve = .ok () ↔ config.Valid curve := by
  unfold Config.validate checkEnvName checkPubkey checkNonZero
  simp only [Checks.run_eq_ok, List.forall_mem_append, List.forall_mem_map, List.forall_mem_cons,
    List.not_mem_nil, false_implies, implies_true, and_true, Checks.ensure_eq_ok,
    Checks.forall_mem_mapIdx, MediationConfig.validate_eq_ok, JudgeConfig.validate_eq_ok]
  constructor
  · rintro ⟨⟨⟨⟨hprivate, hapi, hmostro, hnonempty⟩, hrelays⟩, hsolvers⟩, hobservers, hrenotify,
      hmediation, hjudge⟩
    exact ⟨hprivate, hapi, hnonempty, hrelays,
      Config.keysValid_iff.mpr ⟨hmostro, hsolvers, hobservers⟩, hrenotify, hmediation, hjudge⟩
  · intro valid
    obtain ⟨hmostro, hsolvers, hobservers⟩ := Config.keysValid_iff.mp valid.keys
    exact ⟨⟨⟨⟨valid.privateKeyEnv, valid.apiKeyEnv, hmostro, valid.relays_nonempty⟩, valid.relays⟩,
      hsolvers⟩, hobservers, valid.renotifyAfter_pos, valid.mediation, valid.judge⟩

/-- The defaults of the mediation settings are valid. -/
theorem MediationConfig.valid_default : MediationConfig.default.Valid := by
  refine ⟨⟨List.cons_ne_nil _ _, by decide, fun code hcode => hcode⟩, by decide, ?_, ?_, ?_, ?_, ?_,
    ?_⟩
  all_goals decide

/-- So are the judge's. -/
theorem JudgeConfig.valid_default : JudgeConfig.default.Valid := by
  refine ⟨by decide, by decide +kernel, by decide, fun key thresholds hfound => ?_⟩
  have hempty : JudgeConfig.default.thresholds = ∅ := rfl
  simp [hempty] at hfound

/-- The defaults pass their own checks: the node's key and relays are all a file must give. -/
theorem Config.valid_default {mostro : MostroConfig} (hkey : curve.IsPubkey mostro.pubkey)
    (hne : mostro.relays ≠ []) (hrelays : ∀ relay ∈ mostro.relays, IsRelay relay) :
    Config.Valid curve
      ⟨.default, mostro, [], [], .default, MediationConfig.default, JudgeConfig.default⟩ := by
  have hprivate : IsEnvName ServerConfig.default.privateKeyEnv := by decide +kernel
  have hapi : IsEnvName JudgeConfig.default.apiKeyEnv := by decide +kernel
  have hrenotify : 0 < NotifyConfig.default.renotifyAfter := by decide
  have hkeys : Config.KeysValid curve
      ⟨.default, mostro, [], [], .default, MediationConfig.default, JudgeConfig.default⟩ := by
    refine ⟨hkey, ?_, ?_, ?_, ?_, List.nodup_nil⟩
    all_goals simp
  exact ⟨hprivate, hapi, hne, hrelays, hkeys, hrenotify, MediationConfig.valid_default,
    JudgeConfig.valid_default⟩

end Serbero
