import Serbero.Config.Secrets
import Serbero.Judge.Offers
import Serbero.Judge.TypeSafe
import Serbero.Mostro.Take

/-! # Whether mediation starts

Mediation is off until the node and the judge were checked: a node that answers must speak protocol
v2, and the judge must be a live one with calibrated thresholds that can express the questions and
answers at all. -/

namespace Serbero

/-! ## The node -/

/-- Whether the node speaks protocol v2, as far as it answered. -/
inductive NodeSupport
  | v2
  | unsupported
  | unknown (why : Option NodeError)
  deriving DecidableEq, Repr

/-- What the node's info event says. A node that does not answer yet is checked again before each
take. -/
def checkNode (request : Request) : NodeSupport :=
  match NodeInfo.fetch request with
  | .ok (some node) => if node.speaksV2 then .v2 else .unsupported
  | .ok none => .unknown none
  | .error why => .unknown (some why)

/-! ## The judge -/

/-- The provider's documented limits. -/
def TypeSafeJudge.capabilities : Capabilities where
  questionKinds := [.noul, .choice, .score]
  maxChoiceOptions := 255
  maxScoreLevels := 10

/-- A judge of the configured model; `client` is what building the HTTP client comes to. -/
def TypeSafeJudge.new (config : JudgeConfig) (client : Except String Unit) :
    Except JudgeError TypeSafeJudge :=
  match client with
  | .error e => .error (.invalidRequest s!"cannot build HTTP client: {e}")
  | .ok () => .ok ⟨config.model, .new config.maxRetries⟩

/-- Why there is no judge. -/
inductive JudgeMissing
  | keyNotSet (apiKeyEnv : String)
  | failed (error : JudgeError)
  | notLive (provider : String)
  deriving DecidableEq, Repr

/-- The configured judge. Only a live provider can mediate. -/
def judgeFromConfig (config : JudgeConfig) (apiKey : Option String) (client : Except String Unit) :
    Except JudgeMissing TypeSafeJudge :=
  if config.provider = "typesafe" then
    match apiKey with
    | none => .error (.keyNotSet config.apiKeyEnv)
    | some _ => (TypeSafeJudge.new config client).mapError .failed
  else .error (.notLive config.provider)

/-- What the startup checks found about the judge. -/
structure JudgeChecks where
  hasThresholds : Bool
  capabilityProblems : List CapabilityProblem
  healthError : Option JudgeError
  deriving DecidableEq, Repr

/-- Why a judge cannot mediate. -/
inductive JudgeOff
  | noThresholds
  | cannotExpress (problems : List CapabilityProblem)
  | unhealthy (error : JudgeError)
  deriving DecidableEq, Repr

/-- Mediation runs only with calibrated thresholds, question sets the provider can express, and a
healthy judge. -/
def readiness (checks : JudgeChecks) : Except JudgeOff Unit :=
  Checks.run
    [Checks.ensure (checks.hasThresholds = true) .noThresholds,
      Checks.ensure (checks.capabilityProblems = []) (.cannotExpress checks.capabilityProblems),
      match checks.healthError with
      | none => .ok ()
      | some error => .error (.unhealthy error)]

/-- The judge's startup checks; `outcomes` is what the requests of the health check meet. -/
def checkJudge (judge : TypeSafeJudge) (outcomes : Nat → HttpOutcome)
    (thresholds : Option Thresholds) (turn : QuestionSet) : Except JudgeOff Unit :=
  readiness
    { hasThresholds := thresholds.isSome
      capabilityProblems := TypeSafeJudge.capabilities.check turn
      healthError :=
        match (judge.healthCheck outcomes).2 with
        | .ok () => none
        | .error error => some error }

/-! ## Starting -/

/-- A judge that passed its startup checks, with what judging needs. -/
structure ReadyJudge where
  judge : TypeSafeJudge
  thresholds : Thresholds
  turn : QuestionSet

/-- What the checks meet: the node's answers, the HTTP client, and the provider's. -/
structure Startup where
  node : Request
  client : Except String Unit
  health : Nat → HttpOutcome

/-- Why mediation is off. -/
inductive MediationOff
  | disabled
  | node
  | judge (why : JudgeMissing)
  | checks (why : JudgeOff)
  deriving DecidableEq, Repr

/-- The enabled languages that have a catalog. -/
def MediationConfig.catalogued (mediation : MediationConfig) : List String :=
  mediation.languages.filter fun code => embeddedCodes.contains code

/-- What becomes of mediation at startup; `version` identifies the turn questions of some
languages. -/
def startMediation (version : List String → String) (settings : Config.Settings) (startup : Startup) :
    Except MediationOff ReadyJudge :=
  let config := settings.config
  if config.mediation.enabled = false then .error .disabled
  else if checkNode startup.node = .unsupported then .error .node
  else
    match judgeFromConfig config.judge settings.secrets.judgeApiKey startup.client with
    | .error why => .error (.judge why)
    | .ok judge =>
      let languages := config.mediation.catalogued
      let turn := TurnQuestions.new (version languages) languages
      match checkJudge judge startup.health config.judge.activeThresholds turn,
        config.judge.activeThresholds with
      | .error why, _ => .error (.checks why)
      | .ok (), none => .error (.checks .noThresholds)
      | .ok (), some thresholds => .ok ⟨judge, thresholds, turn⟩

/-! ## What is ready -/

/-- The options of a language question are told apart. -/
theorem nodup_languageOptions {languages : List String} (enabled : EnabledLanguages languages) :
    (TurnQuestions.languageOptions languages).Nodup := by
  have hother : ∀ code ∈ embeddedCodes, code ∉ [TurnQuestions.languageOther,
      TurnQuestions.languageUnknown] := by decide
  refine List.nodup_append'.mpr ⟨enabled.nodup, by decide, fun code hcode hnamed => ?_⟩
  exact hother code (enabled.embedded code hcode) hnamed

/-- There are no more enabled languages than catalogs. -/
theorem length_enabled_le {languages : List String} (enabled : EnabledLanguages languages) :
    languages.length ≤ embeddedCodes.length :=
  (enabled.nodup.subperm enabled.embedded).length_le

/-- **The provider can be asked every question of a turn**, in whatever enabled languages. -/
theorem capabilities_check_turn {version : String} {languages : List String}
    (enabled : EnabledLanguages languages) :
    TypeSafeJudge.capabilities.check (TurnQuestions.new version languages) = [] := by
  have hnoul : ∀ id, TypeSafeJudge.capabilities.problems id .noul = [] := fun id => rfl
  have hchoice : ∀ (id : String) (options : List String), 2 ≤ options.length →
      options.length ≤ 255 → options.Nodup →
        TypeSafeJudge.capabilities.problems id (.choice options) = [] :=
    fun id options htwo hmax hnodup => Capabilities.problems_choice (by decide) htwo hmax hnodup
  apply Capabilities.check_eq_nil
  intro id question hquestion
  rw [TurnQuestions.getElem?_new] at hquestion
  rcases List.mem_append.mp hquestion with hcase | hparty
  · -- The case facts are the same in every language.
    simp only [TurnQuestions.caseFacts, List.mem_cons, Prod.mk.injEq, List.not_mem_nil,
      or_false] at hcase
    rcases hcase with ⟨-, rfl⟩ | ⟨-, rfl⟩ | ⟨-, rfl⟩ | ⟨-, rfl⟩ | ⟨-, rfl⟩ | ⟨-, rfl⟩ | ⟨-, rfl⟩
    · exact hchoice id _ (by decide) (by decide) (by decide)
    · exact hnoul id
    · exact hchoice id _ (by decide) (by decide) (by decide)
    · exact hnoul id
    · exact hnoul id
    · exact hnoul id
    · exact hchoice id _ (by decide) (by decide) (by decide)
  · obtain ⟨party, -, hown⟩ := List.mem_flatMap.mp hparty
    simp only [TurnQuestions.perParty, TurnQuestions.rejectsPath, List.cons_append, List.nil_append,
      List.mem_cons, Prod.mk.injEq, List.not_mem_nil, or_false] at hown
    rcases hown with ⟨-, rfl⟩ | ⟨-, rfl⟩ | ⟨-, rfl⟩ | ⟨-, rfl⟩
    · exact hchoice id _ (by decide) (by decide) (by decide)
    · -- The enabled languages, and two more.
      have hlength := length_enabled_le enabled
      have htotal : (TurnQuestions.languageOptions languages).length = languages.length + 2 := by
        rw [TurnQuestions.languageOptions, List.length_append]
        rfl
      have hcodes : embeddedCodes.length = 3 := rfl
      exact hchoice id _ (by omega) (by omega) (nodup_languageOptions enabled)
    · exact hnoul id
    · exact hnoul id

/-- Every enabled language has a catalog. -/
theorem catalogued_eq {mediation : MediationConfig} (enabled : EnabledLanguages mediation.languages) :
    mediation.catalogued = mediation.languages := by
  rw [MediationConfig.catalogued, List.filter_eq_self]
  intro code hcode
  exact List.contains_iff_mem.mpr (enabled.embedded code hcode)

/-- The provider answered the health check: a success, after failures that may pass. -/
def Healthy (maxRetries : Nat) (outcomes : Nat → HttpOutcome) : Prop :=
  ∃ tries ≤ maxRetries, (∃ body, successBody (outcomes tries) = .ok body) ∧
    ∀ i < tries, (outcomes i).Passing

/-- **The judge is healthy** when an attempt succeeds before the retries run out. -/
theorem healthCheck_eq_ok_iff {judge : TypeSafeJudge} {outcomes : Nat → HttpOutcome} :
    (judge.healthCheck outcomes).2 = .ok () ↔ Healthy judge.retry.maxRetries outcomes := by
  have hrun : (Retry.run (fun failure : Failure => failure.error.isRetryable)
      (fun index => (successBody (outcomes index)).map fun _ => ()) judge.retry.maxRetries 0).2 =
        .ok () ↔ _ := Retry.run_eq_ok_iff
  have hmap : (judge.healthCheck outcomes).2 = .ok () ↔
      (Retry.run (fun failure : Failure => failure.error.isRetryable)
        (fun index => (successBody (outcomes index)).map fun _ => ()) judge.retry.maxRetries 0).2 =
          .ok () := by
    rw [TypeSafeJudge.healthCheck, RetryPolicy.withRetries]
    dsimp only
    cases (Retry.run (fun failure : Failure => failure.error.isRetryable)
      (fun index => (successBody (outcomes index)).map fun _ => ()) judge.retry.maxRetries 0).2 with
    | ok value => simp [Except.mapError]
    | error failure => simp [Except.mapError]
  have hpassing : ∀ i, (∃ failure, (successBody (outcomes (0 + i))).map (fun _ => ()) =
      .error failure ∧ failure.error.isRetryable = true) ↔ (outcomes i).Passing := by
    intro i
    rw [Nat.zero_add, HttpOutcome.Passing]
    cases successBody (outcomes i) with
    | ok body => simp [Except.map]
    | error failure => simp [Except.map]
  have hbody : ∀ i, (successBody (outcomes (0 + i))).map (fun _ => ()) = .ok () ↔
      ∃ body, successBody (outcomes i) = .ok body := by
    intro i
    rw [Nat.zero_add]
    cases successBody (outcomes i) with
    | ok body => simp [Except.map]
    | error failure => simp [Except.map]
  rw [hmap, hrun, Healthy]
  simp only [hbody, hpassing]

/-- The node did not answer that it speaks another protocol. -/
theorem checkNode_ne_unsupported {request : Request} :
    checkNode request ≠ .unsupported ↔
      ∀ node, NodeInfo.fetch request = .ok (some node) → node.protocolVersion = some "2" := by
  unfold checkNode
  cases NodeInfo.fetch request with
  | error why => simp
  | ok found =>
    cases found with
    | none => simp
    | some node =>
      cases hversion : node.speaksV2 with
      | true =>
        have hv2 : node.protocolVersion = some "2" := by simpa [NodeInfo.speaksV2] using hversion
        simp [hversion, hv2]
      | false =>
        have hv2 : node.protocolVersion ≠ some "2" := by simpa [NodeInfo.speaksV2] using hversion
        simp [hversion, hv2]

/-- A judge is built of a provider that is known, a key and a client. -/
theorem judgeFromConfig_eq_ok_iff {config : JudgeConfig} {apiKey : Option String}
    {client : Except String Unit} {judge : TypeSafeJudge} :
    judgeFromConfig config apiKey client = .ok judge ↔
      config.provider = "typesafe" ∧ apiKey.isSome = true ∧ client = .ok () ∧
        judge = ⟨config.model, .new config.maxRetries⟩ := by
  unfold judgeFromConfig TypeSafeJudge.new
  by_cases hprovider : config.provider = "typesafe"
  · rw [if_pos hprovider]
    cases apiKey with
    | none => simp
    | some key =>
      cases client with
      | error e => simp [Except.mapError]
      | ok made =>
        simp only [Except.mapError, Except.ok.injEq, hprovider, Option.isSome_some, true_and]
        exact eq_comm
  · rw [if_neg hprovider]
    simp [hprovider]

/-- The checks pass for thresholds, a question set that can be expressed, and a healthy provider. -/
theorem checkJudge_eq_ok_iff {judge : TypeSafeJudge} {outcomes : Nat → HttpOutcome}
    {thresholds : Option Thresholds} {turn : QuestionSet} :
    checkJudge judge outcomes thresholds turn = .ok () ↔
      thresholds.isSome = true ∧ TypeSafeJudge.capabilities.check turn = [] ∧
        Healthy judge.retry.maxRetries outcomes := by
  rw [← healthCheck_eq_ok_iff]
  unfold checkJudge readiness
  simp only [Checks.run_eq_ok, List.forall_mem_cons, List.not_mem_nil, false_implies, implies_true,
    and_true, Checks.ensure_eq_ok]
  cases (judge.healthCheck outcomes).2 with
  | ok passed => simp
  | error error => simp

/-- A judge that is ready for the languages it is asked about. -/
structure ReadyJudge.For (config : Config) (version : List String → String) (ready : ReadyJudge) :
    Prop where
  judge : ready.judge = ⟨config.judge.model, .new config.judge.maxRetries⟩
  thresholds : config.judge.thresholds[config.judge.judgeKey]? = some ready.thresholds
  valid : ready.thresholds.Valid
  languages : EnabledLanguages config.mediation.languages
  turn : ready.turn =
    TurnQuestions.new (version config.mediation.languages) config.mediation.languages
  /-- Every question of a turn can be asked. -/
  expressed : TypeSafeJudge.capabilities.check ready.turn = []

variable {curve : Curve} {host : Host} {config : Config} {settings : Config.Settings}
  {version : List String → String} {startup : Startup} {ready : ReadyJudge}

/-- **When mediation starts.** With settings that were accepted and mediation enabled, a judge is ready
exactly when the node did not answer with another protocol, the provider is the live one, thresholds
were calibrated for its model, and it answered the health check. It can then be asked every question,
and its thresholds tell the answers apart. -/
theorem startMediation_eq_ok_iff
    (hsettings : Config.Settings.parse curve host config = .ok settings) :
    startMediation version settings startup = .ok ready ↔
      config.mediation.enabled = true ∧
      (∀ node, NodeInfo.fetch startup.node = .ok (some node) →
        node.protocolVersion = some "2") ∧
      config.judge.provider = "typesafe" ∧ startup.client = .ok () ∧
      Healthy config.judge.maxRetries startup.health ∧ ready.For config version := by
  obtain ⟨valid, key, own, api, -, -, hapi, rfl⟩ := Config.Settings.started_of_parse hsettings
  have henabled := valid.mediation.languages
  have hturn := catalogued_eq henabled
  have hexpressed : TypeSafeJudge.capabilities.check (TurnQuestions.new
      (version config.mediation.languages) config.mediation.languages) = [] :=
    capabilities_check_turn henabled
  rw [← checkNode_ne_unsupported]
  unfold startMediation
  dsimp only
  rw [hturn]
  constructor
  · intro h
    split at h
    · cases h
    next hdisabled =>
    split at h
    · cases h
    next hnode =>
    split at h
    · cases h
    next judge hjudge =>
    obtain ⟨hprovider, -, hclient, rfl⟩ := judgeFromConfig_eq_ok_iff.mp hjudge
    split at h
    · cases h
    · cases h
    next thresholds hcheck hactive =>
      cases h
      obtain ⟨-, -, hhealthy⟩ := checkJudge_eq_ok_iff.mp hcheck
      -- The active thresholds are among those that were validated.
      exact ⟨by simpa using hdisabled, hnode, hprovider, hclient, hhealthy,
        ⟨rfl, hactive, (valid.judge.thresholds _ _ hactive).1, henabled, rfl, hexpressed⟩⟩
  · rintro ⟨hon, hnode, hprovider, hclient, hhealthy, hready⟩
    -- A live judge's key was asked for when the settings were accepted.
    have hkey : (api.map Found.value).isSome = true := by
      rw [Option.isSome_map]
      refine hapi.needed hon ?_
      rw [hprovider]
      decide
    have hjudge := judgeFromConfig_eq_ok_iff.mpr ⟨hprovider, hkey, hclient, rfl⟩
    have hactive : config.judge.activeThresholds = some ready.thresholds := hready.thresholds
    have hcheck : checkJudge ⟨config.judge.model, .new config.judge.maxRetries⟩ startup.health
        config.judge.activeThresholds (TurnQuestions.new (version config.mediation.languages)
          config.mediation.languages) = .ok () :=
      checkJudge_eq_ok_iff.mpr ⟨Option.isSome_iff_exists.mpr ⟨_, hactive⟩, hexpressed, hhealthy⟩
    have hdisabled : ¬config.mediation.enabled = false := by simp [hon]
    rw [if_neg hdisabled, if_neg hnode, hjudge]
    dsimp only
    rw [hcheck, hactive]
    obtain ⟨hmodel, -, -, -, hasked, -⟩ := hready
    obtain ⟨judge, thresholds, turn⟩ := ready
    obtain rfl : judge = _ := hmodel
    obtain rfl : turn = _ := hasked
    rfl

/-- Thresholds calibrated for the default model. -/
def calibratedThresholds : Thresholds :=
  ⟨9 / 10, 8 / 10, 8 / 10, 8 / 10, 8 / 10, 8 / 10, ["en"]⟩

def calibratedConfig : Config :=
  { generatorConfig with
    judge := { JudgeConfig.default with
      thresholds := .ofList [("typesafe/jev-1.13.0", calibratedThresholds)] } }

/-- A node that speaks protocol v2, and a provider that is overloaded at first. -/
def calibratedStartup : Startup where
  node := .ok infoAnswers
  client := .ok ()
  health
    | 0 => .response 503 "503 Service Unavailable" (fun _ => none) (.ok "")
    | _ => .response 200 "200 OK" (fun _ => none) (.ok "[]")

/-- Mediation starts with the calibrated example. -/
theorem startMediation_eq_ok_calibrated :
    ∃ settings ready,
      Config.Settings.parse generatorCurve
          (sharingHost (String.ofList (List.replicate 64 'a')) "one") calibratedConfig =
        .ok settings ∧
      startMediation (fun _ => "qs-1") settings calibratedStartup = .ok ready := by
  have hstarts : (Config.Settings.parse generatorCurve
      (sharingHost (String.ofList (List.replicate 64 'a')) "one") calibratedConfig).isOk = true := by
    decide +kernel
  cases hparse : Config.Settings.parse generatorCurve
    (sharingHost (String.ofList (List.replicate 64 'a')) "one") calibratedConfig with
  | error why =>
    rw [hparse] at hstarts
    cases hstarts
  | ok settings =>
    have hlanguages := MediationConfig.valid_default.languages
    have hnode : ∀ node, NodeInfo.fetch calibratedStartup.node = .ok (some node) →
        node.protocolVersion = some "2" := by
      intro node hfetch
      have hinfo : NodeInfo.fetch calibratedStartup.node = .ok (some ⟨some "2", 4, some 12⟩) := by
        decide +kernel
      cases hfetch.symm.trans hinfo
      rfl
    -- The second health check is answered.
    have hhealthy : Healthy calibratedConfig.judge.maxRetries calibratedStartup.health := by
      refine ⟨1, by decide, ⟨"[]", rfl⟩, fun i hi => ?_⟩
      obtain rfl : i = 0 := by omega
      exact ⟨_, rfl, rfl⟩
    have hvalid : calibratedThresholds.Valid := by
      constructor <;> decide +kernel
    have hfound : calibratedConfig.judge.thresholds[calibratedConfig.judge.judgeKey]? =
        some calibratedThresholds := by decide +kernel
    exact ⟨settings, ⟨⟨"jev-1.13.0", .new 3⟩, calibratedThresholds,
      TurnQuestions.new "qs-1" embeddedCodes⟩, rfl, (startMediation_eq_ok_iff hparse).mpr
        ⟨rfl, hnode, rfl, rfl, hhealthy,
          ⟨rfl, hfound, hvalid, hlanguages, rfl, capabilities_check_turn hlanguages⟩⟩⟩

end Serbero
