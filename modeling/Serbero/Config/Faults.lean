import Serbero.Config.Settings

/-! # What is wrong with a configuration

An error names a field and what is wrong with it. Here is what each fault says of the field, apart
from the order of the checks: every error is right, and where nothing is wrong there is none. -/

namespace Serbero

/-- The fields that name an environment variable. -/
def Config.envNames (config : Config) : List (String × String) :=
  [("serbero.private_key_env", config.serbero.privateKeyEnv),
    ("judge.api_key_env", config.judge.apiKeyEnv)]

/-- The keys of the solvers. -/
def Config.solverKeys (config : Config) : List (String × String) :=
  config.solvers.mapIdx fun i solver => (pubkeyField "solvers" i, solver.pubkey)

/-- The keys of the observers. -/
def Config.observerKeys (config : Config) : List (String × String) :=
  config.observers.mapIdx fun i observer => (pubkeyField "observers" i, observer.pubkey)

/-- The fields that hold a public key. -/
def Config.pubkeys (config : Config) : List (String × String) :=
  ("mostro.pubkey", config.mostro.pubkey) :: (config.solverKeys ++ config.observerKeys)

/-- The fields that may not be zero. -/
def Config.amounts (config : Config) : List (String × Nat) :=
  [("notify.renotify_after", config.notify.renotifyAfter),
    ("mediation.quiet_period", config.mediation.quietPeriod),
    ("mediation.response_timeout", config.mediation.responseTimeout),
    ("mediation.self_resolution_timeout", config.mediation.selfResolutionTimeout),
    ("mediation.max_rounds", config.mediation.maxRounds),
    ("mediation.max_message_chars", config.mediation.maxMessageChars),
    ("mediation.max_messages_per_turn", config.mediation.maxMessagesPerTurn),
    ("judge.timeout", config.judge.timeout)]

/-- What an error says is so of the field it names; `serbero` is Serbero's own key. -/
def Config.Wrong (curve : Curve) (config : Config) (serbero : String) : ConfigError → Prop
  | ⟨field, .envName value⟩ => (field, value) ∈ config.envNames ∧ ¬IsEnvName value
  | ⟨field, .pubkey value⟩ => (field, value) ∈ config.pubkeys ∧ ¬curve.IsPubkey value
  | ⟨field, .noRelay⟩ => field = "mostro.relays" ∧ config.mostro.relays = []
  | ⟨field, .relay relay⟩ =>
    field = "mostro.relays" ∧ relay ∈ config.mostro.relays ∧ ¬IsRelay relay
  | ⟨field, .isMostro⟩ => ∃ value, (field, value) ∈ config.observerKeys ∧
      caseless value = caseless config.mostro.pubkey
  | ⟨field, .isSolver⟩ => ∃ value, (field, value) ∈ config.observerKeys ∧
      ∃ solver ∈ config.solvers, caseless value = caseless solver.pubkey
  | ⟨field, .isListed⟩ => ∃ value, (field, value) ∈ config.observerKeys ∧
      1 < (config.observers.map fun observer => caseless observer.pubkey).count (caseless value)
  | ⟨field, .isSerbero⟩ => ∃ value, (field, value) ∈ config.solverKeys ++ config.observerKeys ∧
      caseless value = caseless serbero
  | ⟨field, .zero⟩ => (field, 0) ∈ config.amounts
  | ⟨field, .noLanguage⟩ => field = "mediation.languages" ∧ config.mediation.languages = []
  | ⟨field, .languageListed code⟩ =>
    field = "mediation.languages" ∧ 1 < config.mediation.languages.count code
  | ⟨field, .noCatalog code⟩ => code ∉ embeddedCodes ∧
      (field = "mediation.languages" ∧ code ∈ config.mediation.languages ∨
        ∃ (key : String) (thresholds : Thresholds),
          config.judge.thresholds[key]? = some thresholds ∧
            field = thresholdField key "validated_languages" ∧
              code ∈ thresholds.validatedLanguages)
  | ⟨field, .defaultLanguage code⟩ => field = "mediation.default_language" ∧
      code = config.mediation.defaultLanguage ∧ code ∉ config.mediation.languages
  | ⟨field, .provider name⟩ =>
    field = "judge.provider" ∧ name = config.judge.provider ∧ name ∉ knownProviders
  | ⟨field, .noModel⟩ => field = "judge.model" ∧ isBlank config.judge.model = true
  | ⟨field, .notShare value⟩ => ∃ (key : String) (thresholds : Thresholds) (name : String),
      config.judge.thresholds[key]? = some thresholds ∧ field = thresholdField key name ∧
        (name, value) ∈ thresholds.named ∧ ¬(0 < value ∧ value ≤ 1)
  | ⟨field, .notAboveHalf value⟩ => ∃ (key : String) (thresholds : Thresholds) (name : String),
      config.judge.thresholds[key]? = some thresholds ∧ field = thresholdField key name ∧
        (name, value) ∈ thresholds.named ∧ name ∈ ["guide", "fact"] ∧ value ≤ 1 / 2

variable {curve : Curve} {config : Config} {serbero : String} {error : ConfigError}

/-- A value that is among those before it is there twice. -/
theorem one_lt_count_of_mem_take {α : Type*} [BEq α] [LawfulBEq α] (items : List α) (i : Nat)
    (h : i < items.length) (hmem : items[i] ∈ items.take i) : 1 < items.count items[i] := by
  have hbefore := List.one_le_count_iff.mpr hmem
  have hafter : 1 ≤ (items.drop i).count items[i] := by
    rw [List.one_le_count_iff, List.drop_eq_getElem_cons h]
    exact List.mem_cons_self
  calc 1 < (items.take i).count items[i] + (items.drop i).count items[i] := by omega
    _ = items.count items[i] := by rw [← List.count_append, List.take_append_drop]

/-- A field that may not be zero is. -/
theorem Config.wrong_of_checkNonZero {field : String} {value : Nat}
    (hfield : (field, value) ∈ config.amounts)
    (h : .error error = checkNonZero field value) : config.Wrong curve serbero error := by
  obtain ⟨hzero, rfl⟩ := Checks.of_error_eq_ensure h
  obtain rfl : value = 0 := by omega
  exact hfield

/-- A complaint about the mediation settings is one about the configuration. -/
theorem MediationConfig.wrong_of_validate (h : config.mediation.validate = .error error) :
    config.Wrong curve serbero error := by
  have hmem := Checks.mem_of_run h
  simp only [List.mem_append, List.mem_cons, List.not_mem_nil, or_false, List.mem_mapIdx] at hmem
  rcases hmem with (hlanguages | ⟨i, hi, hcode⟩) | hdefault | hquiet | hresponse | hself | hrounds |
    hchars | hturn
  · obtain ⟨hnone, rfl⟩ := Checks.of_error_eq_ensure hlanguages
    exact ⟨rfl, not_not.mp hnone⟩
  · -- One language of the list, checked twice.
    have hmem := Checks.mem_of_run hcode
    simp only [List.mem_cons, List.not_mem_nil, or_false] at hmem
    rcases hmem with hlisted | hcatalog
    · obtain ⟨hearlier, rfl⟩ := Checks.of_error_eq_ensure hlisted
      exact ⟨rfl, one_lt_count_of_mem_take _ i hi (not_not.mp hearlier)⟩
    · obtain ⟨hnone, rfl⟩ := Checks.of_error_eq_ensure hcatalog
      exact ⟨hnone, Or.inl ⟨rfl, List.getElem_mem hi⟩⟩
  · obtain ⟨hnone, rfl⟩ := Checks.of_error_eq_ensure hdefault
    exact ⟨rfl, rfl, hnone⟩
  · exact Config.wrong_of_checkNonZero (by simp [Config.amounts]) hquiet
  · exact Config.wrong_of_checkNonZero (by simp [Config.amounts]) hresponse
  · exact Config.wrong_of_checkNonZero (by simp [Config.amounts]) hself
  · exact Config.wrong_of_checkNonZero (by simp [Config.amounts]) hrounds
  · exact Config.wrong_of_checkNonZero (by simp [Config.amounts]) hchars
  · exact Config.wrong_of_checkNonZero (by simp [Config.amounts]) hturn

/-- So is one about the thresholds of a judge's key. -/
theorem Config.wrong_of_checkThresholds {key : String} {thresholds : Thresholds}
    (hfound : config.judge.thresholds[key]? = some thresholds)
    (h : checkThresholds key thresholds = .error error) : config.Wrong curve serbero error := by
  have hmem := Checks.mem_of_run h
  simp only [List.mem_append, List.mem_map] at hmem
  rcases hmem with (⟨entry, hentry, hshare⟩ | ⟨code, hcode, hcatalog⟩) | ⟨entry, hentry, hhalf⟩
  · obtain ⟨hnot, rfl⟩ := Checks.of_error_eq_ensure hshare.symm
    exact ⟨key, thresholds, entry.1, hfound, rfl, hentry, hnot⟩
  · obtain ⟨hnone, rfl⟩ := Checks.of_error_eq_ensure hcatalog.symm
    exact ⟨hnone, Or.inr ⟨key, thresholds, hfound, rfl, hcode⟩⟩
  · obtain ⟨hnot, rfl⟩ := Checks.of_error_eq_ensure hhalf.symm
    refine ⟨key, thresholds, entry.1, hfound, rfl, ?_, ?_, not_lt.mp hnot⟩
    all_goals
      simp only [List.mem_cons, List.not_mem_nil, or_false] at hentry
      rcases hentry with rfl | rfl <;> simp [Thresholds.named]

/-- So is one about the judge's settings. -/
theorem JudgeConfig.wrong_of_validate (h : config.judge.validate = .error error) :
    config.Wrong curve serbero error := by
  have hmem := Checks.mem_of_run h
  simp only [List.mem_append, List.mem_cons, List.not_mem_nil, or_false, List.mem_map] at hmem
  rcases hmem with (hprovider | hmodel | htimeout) | ⟨entry, hentry, hthresholds⟩
  · obtain ⟨hnone, rfl⟩ := Checks.of_error_eq_ensure hprovider
    exact ⟨rfl, rfl, hnone⟩
  · obtain ⟨hblank, rfl⟩ := Checks.of_error_eq_ensure hmodel
    exact ⟨rfl, by simpa using hblank⟩
  · exact Config.wrong_of_checkNonZero (by simp [Config.amounts]) htimeout
  · exact Config.wrong_of_checkThresholds
      (Std.TreeMap.mem_toList_iff_getElem?_eq_some.mp hentry) hthresholds

/-- The entry of an observer. -/
theorem Config.mem_observerKeys {i : Nat} (hi : i < config.observers.length) :
    (pubkeyField "observers" i, config.observers[i].pubkey) ∈ config.observerKeys :=
  List.mem_mapIdx.mpr ⟨i, hi, rfl⟩

/-- The entry of a solver. -/
theorem Config.mem_solverKeys {i : Nat} (hi : i < config.solvers.length) :
    (pubkeyField "solvers" i, config.solvers[i].pubkey) ∈ config.solverKeys :=
  List.mem_mapIdx.mpr ⟨i, hi, rfl⟩

/-- So is one about a public key. -/
theorem Config.wrong_of_checkPubkey {field value : String}
    (hfield : (field, value) ∈ config.pubkeys)
    (h : .error error = checkPubkey curve field value) : config.Wrong curve serbero error := by
  obtain ⟨hnot, rfl⟩ := Checks.of_error_eq_ensure h
  exact ⟨hfield, hnot⟩

/-- So is one about the name of a variable. -/
theorem Config.wrong_of_checkEnvName {field value : String}
    (hfield : (field, value) ∈ config.envNames)
    (h : .error error = checkEnvName field value) : config.Wrong curve serbero error := by
  obtain ⟨hnot, rfl⟩ := Checks.of_error_eq_ensure h
  exact ⟨hfield, hnot⟩

/-- So is one about the observers. -/
theorem Config.wrong_of_validateObservers (h : config.validateObservers curve = .error error) :
    config.Wrong curve serbero error := by
  obtain ⟨i, hi, hchecks⟩ := List.mem_mapIdx.mp (Checks.mem_of_run h)
  have hmem := Checks.mem_of_run hchecks
  simp only [List.mem_cons, List.not_mem_nil, or_false] at hmem
  rcases hmem with hkey | hmostro | hsolver | hlisted
  · exact wrong_of_checkPubkey
      (List.mem_cons_of_mem _ (List.mem_append_right _ (mem_observerKeys hi))) hkey
  · obtain ⟨hsame, rfl⟩ := Checks.of_error_eq_ensure hmostro
    exact ⟨_, mem_observerKeys hi, (not_not.mp hsame).symm⟩
  · obtain ⟨hsame, rfl⟩ := Checks.of_error_eq_ensure hsolver
    push Not at hsame
    obtain ⟨solver, hsolver, heq⟩ := hsame
    exact ⟨_, mem_observerKeys hi, solver, hsolver, heq.symm⟩
  · obtain ⟨hsame, rfl⟩ := Checks.of_error_eq_ensure hlisted
    push Not at hsame
    obtain ⟨earlier, hearlier, heq⟩ := hsame
    refine ⟨_, mem_observerKeys hi, ?_⟩
    have htwice := one_lt_count_of_mem_take
      (config.observers.map fun observer => caseless observer.pubkey) i
      (by rw [List.length_map]; exact hi)
      (by rw [List.getElem_map, ← List.map_take, ← heq]; exact List.mem_map_of_mem hearlier)
    rwa [List.getElem_map] at htwice

/-- **An error names a field, and what it says of the field is so.** -/
theorem Config.wrong_of_validate (h : config.validate curve = .error error) :
    config.Wrong curve serbero error := by
  have hmem := Checks.mem_of_run h
  simp only [List.mem_append, List.mem_cons, List.not_mem_nil, or_false, List.mem_map,
    List.mem_mapIdx] at hmem
  rcases hmem with (((hprivate | hapi | hmostro | hnone) | ⟨relay, hrelay, hscheme⟩) |
    ⟨i, hi, hsolver⟩) | hobservers | hrenotify | hmediation | hjudge
  · exact wrong_of_checkEnvName (by simp [envNames]) hprivate
  · exact wrong_of_checkEnvName (by simp [envNames]) hapi
  · exact wrong_of_checkPubkey List.mem_cons_self hmostro
  · obtain ⟨hnil, rfl⟩ := Checks.of_error_eq_ensure hnone
    exact ⟨rfl, not_not.mp hnil⟩
  · obtain ⟨hnot, rfl⟩ := Checks.of_error_eq_ensure hscheme.symm
    exact ⟨rfl, hrelay, hnot⟩
  · exact wrong_of_checkPubkey
      (List.mem_cons_of_mem _ (List.mem_append_left _ (mem_solverKeys hi))) hsolver.symm
  · exact wrong_of_validateObservers hobservers.symm
  · exact wrong_of_checkNonZero (by simp [amounts]) hrenotify
  · exact MediationConfig.wrong_of_validate hmediation.symm
  · exact JudgeConfig.wrong_of_validate hjudge.symm

/-- So is one about Serbero's own key among theirs. -/
theorem Config.wrong_of_checkNotSerbero (h : config.checkNotSerbero serbero = .error error) :
    config.Wrong curve serbero error := by
  have hmem := Checks.mem_of_run h
  simp only [List.mem_append, List.mem_mapIdx] at hmem
  rcases hmem with ⟨i, hi, hsolver⟩ | ⟨i, hi, hobserver⟩
  · obtain ⟨hsame, rfl⟩ := Checks.of_error_eq_ensure hsolver.symm
    exact ⟨_, List.mem_append_left _ (mem_solverKeys hi), not_not.mp hsame⟩
  · obtain ⟨hsame, rfl⟩ := Checks.of_error_eq_ensure hobserver.symm
    exact ⟨_, List.mem_append_right _ (mem_observerKeys hi), not_not.mp hsame⟩

/-- Serbero is neither a solver nor an observer, however the keys are spelled. -/
structure Config.Others (config : Config) (serbero : String) : Prop where
  solvers : ∀ solver ∈ config.solvers, caseless solver.pubkey ≠ caseless serbero
  observers : ∀ observer ∈ config.observers, caseless observer.pubkey ≠ caseless serbero

/-- Serbero's own key is not among theirs when the check passes. -/
theorem Config.checkNotSerbero_eq_ok :
    config.checkNotSerbero serbero = .ok () ↔ config.Others serbero := by
  unfold Config.checkNotSerbero
  simp only [Checks.run_eq_ok, List.forall_mem_append, Checks.forall_mem_mapIdx,
    Checks.ensure_eq_ok]
  constructor
  · rintro ⟨hsolvers, hobservers⟩
    refine ⟨fun solver hsolver => ?_, fun observer hobserver => ?_⟩
    · obtain ⟨i, hi, rfl⟩ := List.getElem_of_mem hsolver
      exact hsolvers i hi
    · obtain ⟨i, hi, rfl⟩ := List.getElem_of_mem hobserver
      exact hobservers i hi
  · intro others
    exact ⟨fun i hi => others.solvers _ (List.getElem_mem hi),
      fun i hi => others.observers _ (List.getElem_mem hi)⟩

/-- The key of an observer's entry is an observer's. -/
theorem Config.exists_observer {field value : String} (h : (field, value) ∈ config.observerKeys) :
    ∃ observer ∈ config.observers, value = observer.pubkey := by
  obtain ⟨i, hi, heq⟩ := List.mem_mapIdx.mp h
  cases heq
  exact ⟨_, List.getElem_mem hi, rfl⟩

/-- The key of a solver's entry is a solver's. -/
theorem Config.exists_solver {field value : String} (h : (field, value) ∈ config.solverKeys) :
    ∃ solver ∈ config.solvers, value = solver.pubkey := by
  obtain ⟨i, hi, heq⟩ := List.mem_mapIdx.mp h
  cases heq
  exact ⟨_, List.getElem_mem hi, rfl⟩

/-- **Nothing is wrong with what is accepted.** -/
theorem Config.not_wrong (valid : config.Valid curve) (others : config.Others serbero) :
    ¬config.Wrong curve serbero error := by
  obtain ⟨field, fault⟩ := error
  cases fault with
  | envName value =>
    rintro ⟨hmem, hnot⟩
    simp only [envNames, List.mem_cons, Prod.mk.injEq, List.not_mem_nil, or_false] at hmem
    rcases hmem with ⟨-, rfl⟩ | ⟨-, rfl⟩
    · exact hnot valid.privateKeyEnv
    · exact hnot valid.apiKeyEnv
  | pubkey value =>
    rintro ⟨hmem, hnot⟩
    simp only [pubkeys, List.mem_cons, Prod.mk.injEq, List.mem_append] at hmem
    rcases hmem with ⟨-, rfl⟩ | hsolver | hobserver
    · exact hnot valid.keys.mostro
    · obtain ⟨solver, hmem, rfl⟩ := exists_solver hsolver
      exact hnot (valid.keys.solvers solver hmem)
    · obtain ⟨observer, hmem, rfl⟩ := exists_observer hobserver
      exact hnot (valid.keys.observers observer hmem)
  | noRelay =>
    rintro ⟨-, hnil⟩
    exact valid.relays_nonempty hnil
  | relay relay =>
    rintro ⟨-, hmem, hnot⟩
    exact hnot (valid.relays relay hmem)
  | isMostro =>
    rintro ⟨value, hmem, hsame⟩
    obtain ⟨observer, hobserver, rfl⟩ := exists_observer hmem
    exact valid.keys.observers_mostro observer hobserver hsame.symm
  | isSolver =>
    rintro ⟨value, hmem, solver, hsolver, hsame⟩
    obtain ⟨observer, hobserver, rfl⟩ := exists_observer hmem
    exact valid.keys.observers_solvers observer hobserver solver hsolver hsame.symm
  | isListed =>
    rintro ⟨value, -, htwice⟩
    exact absurd (List.nodup_iff_count_le_one.mp valid.keys.observers_nodup (caseless value))
      (not_le.mpr htwice)
  | isSerbero =>
    rintro ⟨value, hmem, hsame⟩
    rcases List.mem_append.mp hmem with hsolver | hobserver
    · obtain ⟨solver, hlisted, rfl⟩ := exists_solver hsolver
      exact others.solvers solver hlisted hsame
    · obtain ⟨observer, hlisted, rfl⟩ := exists_observer hobserver
      exact others.observers observer hlisted hsame
  | zero =>
    intro hmem
    -- Every amount of the configuration is one of those that are checked to be positive.
    have hpos : ∀ entry ∈ config.amounts, 0 < entry.2 := by
      simp only [amounts, List.forall_mem_cons, List.not_mem_nil, false_implies, implies_true,
        and_true]
      exact ⟨valid.renotifyAfter_pos, valid.mediation.quietPeriod_pos,
        valid.mediation.responseTimeout_pos, valid.mediation.selfResolutionTimeout_pos,
        valid.mediation.maxRounds_pos, valid.mediation.maxMessageChars_pos,
        valid.mediation.maxMessagesPerTurn_pos, valid.judge.timeout_pos⟩
    exact Nat.lt_irrefl 0 (hpos _ hmem)
  | noLanguage =>
    rintro ⟨-, hnil⟩
    exact valid.mediation.languages.nonempty hnil
  | languageListed code =>
    rintro ⟨-, htwice⟩
    exact absurd (List.nodup_iff_count_le_one.mp valid.mediation.languages.nodup code)
      (not_le.mpr htwice)
  | noCatalog code =>
    rintro ⟨hnone, ⟨-, hmem⟩ | ⟨key, thresholds, hfound, -, hmem⟩⟩
    · exact hnone (valid.mediation.languages.embedded code hmem)
    · exact hnone ((valid.judge.thresholds key thresholds hfound).2 code hmem)
  | defaultLanguage code =>
    rintro ⟨-, rfl, hnone⟩
    exact hnone valid.mediation.default_mem
  | provider name =>
    rintro ⟨-, rfl, hnone⟩
    exact hnone valid.judge.provider_mem
  | noModel =>
    rintro ⟨-, hblank⟩
    rw [valid.judge.model] at hblank
    cases hblank
  | notShare value =>
    rintro ⟨key, thresholds, name, hfound, -, hmem, hnot⟩
    have hvalid := (valid.judge.thresholds key thresholds hfound).1
    exact hnot (hvalid.share hmem)
  | notAboveHalf value =>
    rintro ⟨key, thresholds, name, hfound, -, hmem, hname, hle⟩
    have hvalid := (valid.judge.thresholds key thresholds hfound).1
    exact absurd (hvalid.half hmem hname) (not_lt.mpr hle)

end Serbero
