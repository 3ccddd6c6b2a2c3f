import Serbero.Config.Duration
import Serbero.Config.Faults

/-! # Secrets

The file names the environment variables that hold the secrets; each may instead be read from the
file its `<VAR>_FILE` points to. What is said of a secret never depends on it. -/

namespace Serbero

/-- A secret file's contents, and whether any user on the host may read it. -/
structure SecretFile where
  contents : String
  shared : Bool
  deriving DecidableEq, Repr

/-- What Serbero finds on the host: the environment, and what reading a file comes to. -/
structure Host where
  env : String → Option String
  readFile : String → Except String SecretFile

/-- A secret found in the environment or in a file. -/
structure Found where
  value : String
  /-- Set when any user on the host may read the file. -/
  warning : Option String
  deriving DecidableEq, Repr

/-- Suffix of the variable that names a file holding the secret. -/
def fileSuffix : String := "_FILE"

/-- A text without the white space around it. -/
def trimmed (text : String) : String := String.ofList (trim text.toList)

/-- A path from the root. -/
def isAbsolute (path : String) : Bool := path.toList.head? == some '/'

/-- What a variable is set to; blank counts as unset. -/
def Host.set (host : Host) (var : String) : Option String :=
  ((host.env var).map trimmed).filter fun value => value ≠ ""

/-- What is warned of a file that any user may read. -/
def sharedWarning (fileVar path : String) : String :=
  s!"{fileVar} ({path}) is readable by any user; remove its access for others"

/-- Reads the secret from the file at `path`. -/
def Host.lookupFile (host : Host) (fileVar name path : String) : Except String Found :=
  -- Anything else may be the secret itself, pasted into the wrong variable: it is not echoed.
  if isAbsolute path = false then
    .error s!"{fileVar} must be an absolute path to the file holding {name}"
  else
    match host.readFile path with
    | .error e => .error s!"cannot read {fileVar} ({path}): {e}"
    | .ok file =>
      if trimmed file.contents = "" then .error s!"{fileVar} ({path}) is empty"
      else
        .ok ⟨trimmed file.contents, if file.shared then some (sharedWarning fileVar path) else none⟩

/-- Reads the secret from `name`, or from the file `name_FILE` points to. Both is an error, so a
stale value never silently wins. -/
def Host.lookup (host : Host) (name : String) : Except String (Option Found) :=
  match host.set name, host.set (name ++ fileSuffix) with
  | some _, some _ => .error s!"set {name} or {name ++ fileSuffix}, not both"
  | some value, none => .ok (some ⟨value, none⟩)
  | none, none => .ok none
  | none, some path => (host.lookupFile (name ++ fileSuffix) name path).map some

/-! ## Files -/

/-- Larger than any key Serbero uses. -/
def maxSecretBytes : Nat := 4096

/-- What the file system says of a file. -/
structure Metadata where
  isFile : Bool
  mode : Nat
  deriving DecidableEq, Repr

/-- An open file: what is said of it, and what is read of it up to a number of bytes. -/
structure Handle where
  metadata : Except String Metadata
  read : Nat → Except String String

/-- A file system. Only what was opened can be read. -/
structure Disk where
  metadata : String → Except String Metadata
  opened : String → Except String Handle

def ensureRegular (metadata : Metadata) : Except String Unit :=
  Checks.ensure (metadata.isFile = true) "not a regular file"

/-- Whether any user may read, write or run the file; a group's access is left to the operator. -/
def isShared (metadata : Metadata) : Bool := metadata.mode % 8 != 0

/-- Reads a secret file from disk. Both its contents and its permissions come from one open handle. -/
def Disk.readFromDisk (disk : Disk) (path : String) : Except String SecretFile := do
  -- Before it is opened: opening a FIFO with no writer blocks forever.
  ensureRegular (← disk.metadata path)
  let file ← disk.opened path
  let metadata ← file.metadata
  ensureRegular metadata
  let contents ← file.read (maxSecretBytes + 1)
  if maxSecretBytes < contents.utf8ByteSize then .error s!"larger than {maxSecretBytes} bytes"
  else .ok ⟨contents, isShared metadata⟩

/-- A host whose files are on a disk. -/
def Disk.host (disk : Disk) (env : String → Option String) : Host := ⟨env, disk.readFromDisk⟩

/-- What a secret file was when it was read: a regular file of at most so many bytes, and the
permissions are those of the very file that was opened. -/
structure Disk.Reads (disk : Disk) (path : String) (file : SecretFile) (before after : Metadata)
    (handle : Handle) : Prop where
  metadata : disk.metadata path = .ok before
  regular : before.isFile = true
  opened : disk.opened path = .ok handle
  handle_metadata : handle.metadata = .ok after
  still_regular : after.isFile = true
  read : handle.read (maxSecretBytes + 1) = .ok file.contents
  bounded : file.contents.utf8ByteSize ≤ maxSecretBytes
  shared : file.shared = isShared after

/-- A file is read when nothing went wrong and the handle is the file that was looked at. -/
theorem Disk.readFromDisk_eq_ok_iff {disk : Disk} {path : String} {file : SecretFile} :
    disk.readFromDisk path = .ok file ↔
      ∃ before after handle, disk.Reads path file before after handle := by
  unfold readFromDisk ensureRegular
  constructor
  · intro h
    -- Each `split` is one refusal, in the order the file is examined.
    simp only [bind, Except.bind] at h
    split at h
    · cases h
    next before hbefore =>
    split at h
    · cases h
    next hregular =>
    split at h
    · cases h
    next handle hopened =>
    split at h
    · cases h
    next after hafter =>
    split at h
    · cases h
    next hstill =>
    split at h
    · cases h
    next contents hcontents =>
    split at h
    · cases h
    next hbounded =>
      cases h
      exact ⟨before, after, handle, hbefore, Checks.ensure_eq_ok.mp hregular, hopened, hafter,
        Checks.ensure_eq_ok.mp hstill, hcontents, not_lt.mp hbounded, rfl⟩
  · rintro ⟨before, after, handle, h⟩
    have hregular : Checks.ensure (before.isFile = true) "not a regular file" = .ok () :=
      Checks.ensure_eq_ok.mpr h.regular
    have hstill : Checks.ensure (after.isFile = true) "not a regular file" = .ok () :=
      Checks.ensure_eq_ok.mpr h.still_regular
    simp only [h.metadata, h.opened, h.handle_metadata, h.read, hregular, hstill, bind, Except.bind,
      if_neg (not_lt.mpr h.bounded), ← h.shared]

/-! ## Resolving -/

/-- The secrets. -/
structure Secrets where
  privateKey : String
  /-- Present when it is set. -/
  judgeApiKey : Option String
  deriving DecidableEq, Repr

/-- Why Serbero does not start: a message about a secret, or a fault of the file. -/
inductive SettingsError
  | secret (message : String)
  | config (error : ConfigError)
  deriving DecidableEq, Repr

/-- The public key of a private key in hex, if it is one. -/
def Curve.keyOf (curve : Curve) (privateKey : String) : Option String :=
  if IsHexKey privateKey then curve.publicKeyOf privateKey else none

/-- The secrets the file asks for, and what to warn of. -/
def Secrets.resolve (curve : Curve) (config : Config) (host : Host) :
    Except String (Secrets × List String) :=
  let keyEnv := config.serbero.privateKeyEnv
  let keyFile := keyEnv ++ fileSuffix
  match host.lookup keyEnv with
  | .error why => .error why
  | .ok none =>
    .error s!"environment variable {keyEnv} or {keyFile} (serbero.private_key_env) is not set"
  | .ok (some key) =>
    if curve.keyOf key.value = none then
      .error s!"{keyEnv} must be a valid 64-character hex secp256k1 private key"
    else
      let apiEnv := config.judge.apiKeyEnv
      match host.lookup apiEnv with
      | .error why => .error why
      | .ok api =>
        if config.mediation.enabled ∧ config.judge.provider ≠ "recorded" ∧ api = none then
          .error (s!"mediation is enabled but environment variable {apiEnv} or " ++
            s!"{apiEnv}{fileSuffix} (judge.api_key_env) is not set")
        else
          .ok (⟨key.value, api.map Found.value⟩,
            key.warning.toList ++ (api.bind Found.warning).toList)

/-- The validated configuration, and the secrets it points to. -/
structure Config.Settings where
  config : Config
  secrets : Secrets
  /-- Problems worth logging that do not stop startup. -/
  warnings : List String

/-- Validates the file and resolves its secrets. -/
def Config.Settings.parse (curve : Curve) (host : Host) (config : Config) :
    Except SettingsError Config.Settings :=
  match config.validate curve with
  | .error error => .error (.config error)
  | .ok () =>
    match Secrets.resolve curve config host with
    | .error message => .error (.secret message)
    | .ok (secrets, warnings) =>
      match curve.publicKeyOf secrets.privateKey with
      | none => .error (.secret "invalid private key")
      | some serbero =>
        match config.checkNotSerbero serbero with
        | .error error => .error (.config error)
        | .ok () => .ok ⟨config, secrets, warnings⟩

/-! ## Where a secret is found -/

variable {host other : Host} {curve : Curve} {config : Config} {name var : String}

/-- What is trimmed away is blank. -/
theorem trimmed_eq_empty {text : String} : trimmed text = "" ↔ isBlank text = true := by
  rw [trimmed, isBlank, List.all_eq_true, ← trim_eq_nil_iff, ← String.toList_inj,
    String.toList_ofList]
  rfl

/-- A variable that is not set, or set to nothing but white space. -/
def Host.Unset (host : Host) (var : String) : Prop := ∀ raw ∈ host.env var, isBlank raw = true

namespace Host

/-- A variable is unset when it is missing or blank. -/
theorem set_eq_none_iff : host.set var = none ↔ host.Unset var := by
  rw [set, Unset, Option.filter_eq_none_iff]
  constructor
  · intro h raw hraw
    have hempty := h (trimmed raw) (Option.mem_map_of_mem trimmed hraw)
    exact trimmed_eq_empty.mp (by simpa using hempty)
  · intro h value hvalue
    obtain ⟨raw, hraw, rfl⟩ := Option.mem_map.mp hvalue
    simpa using trimmed_eq_empty.mpr (h raw hraw)

/-- A variable that is set has its trimmed text. -/
theorem set_eq_some_iff {value : String} :
    host.set var = some value ↔
      ∃ raw ∈ host.env var, isBlank raw = false ∧ trimmed raw = value := by
  rw [set, Option.filter_eq_some_iff, Option.map_eq_some_iff]
  constructor
  · rintro ⟨⟨raw, hraw, rfl⟩, hne⟩
    refine ⟨raw, hraw, ?_, rfl⟩
    rw [← Bool.not_eq_true, ← trimmed_eq_empty]
    simpa using hne
  · rintro ⟨raw, hraw, hblank, rfl⟩
    refine ⟨⟨raw, hraw, rfl⟩, ?_⟩
    rw [← Bool.not_eq_true, ← trimmed_eq_empty] at hblank
    simpa using hblank

/-- A secret the host gives: the variable alone is set, or the file's alone, to the path of a file
that can be read. White space around the secret is no part of it. -/
inductive Gives (host : Host) (name : String) : Found → Prop
  | env {raw : String} (henv : host.env name = some raw) (hraw : isBlank raw = false)
      (hfile : host.Unset (name ++ fileSuffix)) : Gives host name ⟨trimmed raw, none⟩
  | file {raw : String} {file : SecretFile} (hunset : host.Unset name)
      (henv : host.env (name ++ fileSuffix) = some raw) (hpath : isAbsolute (trimmed raw) = true)
      (hread : host.readFile (trimmed raw) = .ok file) (hcontents : isBlank file.contents = false) :
      Gives host name ⟨trimmed file.contents,
        if file.shared then some (sharedWarning (name ++ fileSuffix) (trimmed raw)) else none⟩

/-- A file is taken at an absolute path, when it can be read and is not blank. -/
theorem lookupFile_eq_ok_iff {fileVar path : String} {found : Found} :
    host.lookupFile fileVar name path = .ok found ↔
      isAbsolute path = true ∧ ∃ file, host.readFile path = .ok file ∧
        isBlank file.contents = false ∧
          found = ⟨trimmed file.contents,
            if file.shared then some (sharedWarning fileVar path) else none⟩ := by
  unfold lookupFile
  constructor
  · intro h
    split at h
    · cases h
    next habsolute =>
    split at h
    · cases h
    next file hread =>
    split at h
    · cases h
    next hne =>
      cases h
      rw [trimmed_eq_empty, Bool.not_eq_true] at hne
      exact ⟨by simpa using habsolute, file, hread, hne, rfl⟩
  · rintro ⟨habsolute, file, hread, hblank, rfl⟩
    have hne : trimmed file.contents ≠ "" := by
      rw [ne_eq, trimmed_eq_empty, hblank]
      exact Bool.false_ne_true
    rw [habsolute, if_neg (by decide), hread]
    simp only [if_neg hne]

/-- A text that begins with a slash is no white space. -/
theorem isBlank_of_isAbsolute {raw : String} (h : isAbsolute (trimmed raw) = true) :
    isBlank raw = false := by
  rw [← Bool.not_eq_true, ← trimmed_eq_empty]
  intro hempty
  rw [hempty] at h
  cases h

/-- **Where a secret is found.** -/
theorem lookup_eq_some_iff {found : Found} :
    host.lookup name = .ok (some found) ↔ host.Gives name found := by
  unfold lookup
  constructor
  · intro h
    split at h
    · cases h
    next value hvalue hfile =>
      cases h
      obtain ⟨raw, hraw, hblank, rfl⟩ := set_eq_some_iff.mp hvalue
      exact .env hraw hblank (set_eq_none_iff.mp hfile)
    · cases h
    next path hunset hpath =>
      cases hlookup : host.lookupFile (name ++ fileSuffix) name path with
      | error why => simp [hlookup, Except.map] at h
      | ok given =>
        rw [hlookup] at h
        cases h
        obtain ⟨habsolute, file, hread, hblank, rfl⟩ := lookupFile_eq_ok_iff.mp hlookup
        obtain ⟨raw, hraw, -, rfl⟩ := set_eq_some_iff.mp hpath
        exact .file (set_eq_none_iff.mp hunset) hraw habsolute hread hblank
  · intro h
    cases h with
    | env henv hraw hfile =>
      rw [set_eq_some_iff.mpr ⟨_, henv, hraw, rfl⟩, set_eq_none_iff.mpr hfile]
    | file hunset henv hpath hread hcontents =>
      rw [set_eq_none_iff.mpr hunset,
        set_eq_some_iff.mpr ⟨_, henv, isBlank_of_isAbsolute hpath, rfl⟩]
      simp only [lookupFile_eq_ok_iff.mpr ⟨hpath, _, hread, hcontents, rfl⟩, Except.map]

/-- No answer is given when neither variable is set. -/
theorem lookup_eq_none_iff :
    host.lookup name = .ok none ↔ host.Unset name ∧ host.Unset (name ++ fileSuffix) := by
  rw [← set_eq_none_iff, ← set_eq_none_iff]
  unfold lookup
  constructor
  · intro h
    split at h
    · cases h
    · cases h
    next hunset hfile => exact ⟨hunset, hfile⟩
    next path hunset hpath =>
      cases hlookup : host.lookupFile (name ++ fileSuffix) name path with
      | error why => simp [hlookup, Except.map] at h
      | ok given => simp [hlookup, Except.map] at h
  · rintro ⟨hunset, hfile⟩
    rw [hunset, hfile]

end Host

/-- A secret found in the environment, or read from a file on the disk. -/
inductive Disk.Gives (disk : Disk) (env : String → Option String) (name : String) : Found → Prop
  | env {raw : String} (henv : env name = some raw) (hraw : isBlank raw = false)
      (hfile : (disk.host env).Unset (name ++ fileSuffix)) : Gives disk env name ⟨trimmed raw, none⟩
  | file {raw : String} {file : SecretFile} {before after : Metadata} {handle : Handle}
      (hunset : (disk.host env).Unset name) (henv : env (name ++ fileSuffix) = some raw)
      (hpath : isAbsolute (trimmed raw) = true)
      (hreads : disk.Reads (trimmed raw) file before after handle)
      (hcontents : isBlank file.contents = false) :
      Gives disk env name ⟨trimmed file.contents,
        if isShared after then some (sharedWarning (name ++ fileSuffix) (trimmed raw)) else none⟩

/-- On a disk, the file of a secret is a regular one of bounded size. -/
theorem Disk.gives_host_iff {disk : Disk} {env : String → Option String} {found : Found} :
    (disk.host env).Gives name found ↔ disk.Gives env name found := by
  constructor
  · intro h
    cases h with
    | env henv hraw hfile => exact .env henv hraw hfile
    | file hunset henv hpath hread hcontents =>
      obtain ⟨before, after, handle, hreads⟩ := readFromDisk_eq_ok_iff.mp hread
      rw [hreads.shared]
      exact .file hunset henv hpath hreads hcontents
  · intro h
    cases h with
    | env henv hraw hfile => exact .env henv hraw hfile
    | file hunset henv hpath hreads hcontents =>
      rw [← hreads.shared]
      exact .file hunset henv hpath (readFromDisk_eq_ok_iff.mpr ⟨_, _, _, hreads⟩) hcontents

/-! ## Starting -/

/-- A secret that may be missing: what the host gives, or that it is set nowhere. -/
def Host.Answers (host : Host) (name : String) : Option Found → Prop
  | some found => host.Gives name found
  | none => host.Unset name ∧ host.Unset (name ++ fileSuffix)

/-- **A lookup** answers by its two variables. -/
theorem Host.lookup_eq_ok_iff {found : Option Found} :
    host.lookup name = .ok found ↔ host.Answers name found := by
  cases found with
  | none => exact lookup_eq_none_iff
  | some found => exact lookup_eq_some_iff

/-- The private key, and its public key: Serbero's own. -/
structure Config.Keyed (curve : Curve) (host : Host) (config : Config) (key : Found)
    (serbero : String) : Prop where
  gives : host.Gives config.serbero.privateKeyEnv key
  keyOf : curve.keyOf key.value = some serbero

/-- The key of the judge, which a live judge must have. -/
structure Config.JudgeKeyed (host : Host) (config : Config) (api : Option Found) : Prop where
  answers : host.Answers config.judge.apiKeyEnv api
  needed : config.mediation.enabled = true → config.judge.provider ≠ "recorded" → api.isSome = true

/-- A private key that is accepted has a public key. -/
theorem Curve.publicKeyOf_of_keyOf {privateKey serbero : String}
    (h : curve.keyOf privateKey = some serbero) : curve.publicKeyOf privateKey = some serbero := by
  unfold Curve.keyOf at h
  split at h
  · exact h
  · cases h

/-- The secrets are resolved when both keys are found. -/
theorem Secrets.resolve_eq_ok_iff {secrets : Secrets} {warnings : List String} :
    Secrets.resolve curve config host = .ok (secrets, warnings) ↔
      ∃ key serbero api, config.Keyed curve host key serbero ∧ config.JudgeKeyed host api ∧
        secrets = ⟨key.value, api.map Found.value⟩ ∧
          warnings = key.warning.toList ++ (api.bind Found.warning).toList := by
  unfold Secrets.resolve
  constructor
  · intro h
    simp only [] at h
    split at h
    · cases h
    · cases h
    next key hkey =>
    split at h
    · cases h
    next hvalid =>
    split at h
    · cases h
    next api hapi =>
    split at h
    · cases h
    next hneeded =>
      cases h
      -- The key is one of the curve's, and a live judge has its own.
      obtain ⟨serbero, hserbero⟩ := Option.ne_none_iff_exists'.mp hvalid
      refine ⟨key, serbero, api, ⟨Host.lookup_eq_some_iff.mp hkey, hserbero⟩,
        ⟨Host.lookup_eq_ok_iff.mp hapi, fun henabled hprovider => ?_⟩, rfl, rfl⟩
      by_contra hnone
      exact hneeded ⟨henabled, hprovider, by simpa using hnone⟩
  · rintro ⟨key, serbero, api, hkey, hapi, rfl, rfl⟩
    have hvalid : curve.keyOf key.value ≠ none := by simp [hkey.keyOf]
    have hneeded : ¬(config.mediation.enabled = true ∧ config.judge.provider ≠ "recorded" ∧
        api = none) := by
      rintro ⟨henabled, hprovider, rfl⟩
      exact absurd (hapi.needed henabled hprovider) (by decide)
    simp only [Host.lookup_eq_some_iff.mpr hkey.gives, Host.lookup_eq_ok_iff.mpr hapi.answers,
      if_neg hvalid, if_neg hneeded]

namespace Config.Settings

variable {settings : Config.Settings}

/-- What a start that succeeded started with. -/
theorem started_of_parse (h : parse curve host config = .ok settings) :
    config.Valid curve ∧ ∃ key serbero api, config.Keyed curve host key serbero ∧
      config.Others serbero ∧ config.JudgeKeyed host api ∧
        settings = ⟨config, ⟨key.value, api.map Found.value⟩,
          key.warning.toList ++ (api.bind Found.warning).toList⟩ := by
  unfold parse at h
  split at h
  · cases h
  next hvalid =>
  split at h
  · cases h
  next secrets warnings hsecrets =>
  obtain ⟨key, own, api, hkey, hapi, rfl, rfl⟩ := Secrets.resolve_eq_ok_iff.mp hsecrets
  rw [Curve.publicKeyOf_of_keyOf hkey.keyOf] at h
  simp only [] at h
  split at h
  · cases h
  next hothers =>
    cases h
    exact ⟨Config.validate_eq_ok.mp hvalid, key, own, api, hkey,
      Config.checkNotSerbero_eq_ok.mp hothers, hapi, rfl⟩

/-- **What is read from disk.** Each secret Serbero starts with is in the environment or in a regular
file of bounded size, and it warns of those files any user may read when they are read. -/
theorem started_on_disk {disk : Disk} {env : String → Option String}
    (h : parse curve (disk.host env) config = .ok settings) :
    ∃ key, ∃ api : Option Found, disk.Gives env config.serbero.privateKeyEnv key ∧
      (∀ found ∈ api, disk.Gives env config.judge.apiKeyEnv found) ∧
        settings.secrets = ⟨key.value, api.map Found.value⟩ ∧
          settings.warnings = key.warning.toList ++ (api.bind Found.warning).toList := by
  obtain ⟨-, key, serbero, api, hkey, -, hapi, rfl⟩ := started_of_parse h
  refine ⟨key, api, Disk.gives_host_iff.mp hkey.gives, fun found hfound => ?_, rfl, rfl⟩
  have hanswers := hapi.answers
  rw [Option.mem_def.mp hfound] at hanswers
  exact Disk.gives_host_iff.mp hanswers

/-- What starting comes to, and what it says of the file: accepted, nothing is wrong with it; a fault
that is named is there; and a secret is complained about only where the file is valid. -/
def Told (curve : Curve) (host : Host) (config : Config) :
    Except SettingsError Config.Settings → Prop
  | .ok _ => ∀ key serbero, config.Keyed curve host key serbero →
      ∀ error, ¬config.Wrong curve serbero error
  | .error (.config error) => (∀ serbero, config.Wrong curve serbero error) ∨
      ∃ key serbero, config.Keyed curve host key serbero ∧ config.Wrong curve serbero error
  | .error (.secret _) => config.Valid curve

/-- The host gives one private key, and it has one public key. -/
theorem serbero_unique {key found : Found} {serbero own : String}
    (hkey : config.Keyed curve host key serbero) (hfound : config.Keyed curve host found own) :
    own = serbero := by
  have hsame := (Host.lookup_eq_some_iff.mpr hfound.gives).symm.trans
    (Host.lookup_eq_some_iff.mpr hkey.gives)
  cases hsame
  exact Option.some.inj (hfound.keyOf.symm.trans hkey.keyOf)

/-- **What is said of the file is so.** -/
theorem parse_told : Told curve host config (parse curve host config) := by
  cases hparse : parse curve host config with
  | ok settings =>
    obtain ⟨valid, found, own, api, hfound, hothers, -, -⟩ := started_of_parse hparse
    intro key serbero hkey error
    -- The key the file was checked with is the only one the host gives.
    rw [serbero_unique hkey hfound] at hothers
    exact Config.not_wrong valid hothers
  | error why =>
    unfold parse at hparse
    split at hparse
    next error hvalidate =>
      cases hparse
      exact Or.inl fun serbero => Config.wrong_of_validate hvalidate
    next hvalid =>
    have valid := Config.validate_eq_ok.mp hvalid
    split at hparse
    · cases hparse
      exact valid
    next secrets warnings hsecrets =>
    obtain ⟨key, own, api, hkey, -, rfl, -⟩ := Secrets.resolve_eq_ok_iff.mp hsecrets
    rw [Curve.publicKeyOf_of_keyOf hkey.keyOf] at hparse
    simp only [] at hparse
    split at hparse
    next error hself =>
      cases hparse
      exact Or.inr ⟨key, own, hkey, Config.wrong_of_checkNotSerbero hself⟩
    · cases hparse

end Config.Settings

/-! ## What is said of a secret -/

/-- Files that read alike: neither can be read, for the same reason, or both hold something, or both
nothing, for the same users to read. -/
def SecretFile.SameRead : Except String SecretFile → Except String SecretFile → Prop
  | .error e, .error e' => e = e'
  | .ok file, .ok file' =>
    file.shared = file'.shared ∧ isBlank file.contents = isBlank file'.contents
  | _, _ => False

/-- Hosts that differ in no more than what the secret is: it is set in both or in neither, and its
file's variable names the same path in both, or holds in both what is no path. -/
structure Host.Alike (host other : Host) (name : String) : Prop where
  env : host.Unset name ↔ other.Unset name
  file : (host.Unset (name ++ fileSuffix) ∧ other.Unset (name ++ fileSuffix)) ∨
    (∃ path, host.set (name ++ fileSuffix) = some path ∧
      other.set (name ++ fileSuffix) = some path ∧
        SecretFile.SameRead (host.readFile path) (other.readFile path)) ∨
    ∃ pasted pasted', host.set (name ++ fileSuffix) = some pasted ∧
      other.set (name ++ fileSuffix) = some pasted' ∧
        isAbsolute pasted = false ∧ isAbsolute pasted' = false

/-- Answers of which the same is told: the same error, no secret, or secrets with the same warning. -/
inductive Found.SameTold : Except String (Option Found) → Except String (Option Found) → Prop
  | error (why : String) : SameTold (.error why) (.error why)
  | unset : SameTold (.ok none) (.ok none)
  | found {key key' : Found} (h : key.warning = key'.warning) :
      SameTold (.ok (some key)) (.ok (some key'))

/-- The same is told of files that read alike. -/
theorem Host.lookupFile_sameTold {fileVar path : String}
    (h : SecretFile.SameRead (host.readFile path) (other.readFile path)) :
    Found.SameTold ((host.lookupFile fileVar name path).map some)
      ((other.lookupFile fileVar name path).map some) := by
  unfold lookupFile
  by_cases habsolute : isAbsolute path = false
  · rw [if_pos habsolute, if_pos habsolute]
    exact .error _
  · rw [if_neg habsolute, if_neg habsolute]
    cases hread : host.readFile path with
    | error e =>
      cases hother : other.readFile path with
      | error e' =>
        rw [hread, hother] at h
        obtain rfl : e = e' := h
        exact .error _
      | ok file' =>
        rw [hread, hother] at h
        exact h.elim
    | ok file =>
      cases hother : other.readFile path with
      | error e' =>
        rw [hread, hother] at h
        exact h.elim
      | ok file' =>
        rw [hread, hother] at h
        obtain ⟨hshared, hblank⟩ := h
        -- Contents that are blank alike are empty alike.
        have hempty : trimmed file.contents = "" ↔ trimmed file'.contents = "" := by
          rw [trimmed_eq_empty, trimmed_eq_empty, hblank]
        by_cases hnil : trimmed file.contents = ""
        · simp only [if_pos hnil, if_pos (hempty.mp hnil)]
          exact .error _
        · simp only [if_neg hnil, if_neg (mt hempty.mpr hnil), hshared]
          exact .found rfl

/-- **The same is told of a secret, whatever it is.** -/
theorem Host.lookup_sameTold (h : host.Alike other name) :
    Found.SameTold (host.lookup name) (other.lookup name) := by
  have henv := h.env
  rw [← set_eq_none_iff, ← set_eq_none_iff] at henv
  have hfile := h.file
  rw [← set_eq_none_iff, ← set_eq_none_iff] at hfile
  unfold lookup
  cases hset : host.set name with
  | none =>
    -- Only the file's variable can be set, and it is on both hosts or on neither.
    rw [henv.mp hset]
    rcases hfile with ⟨hnone, hnone'⟩ | ⟨path, hpath, hpath', hsame⟩ |
      ⟨pasted, pasted', hpasted, hpasted', hrelative, hrelative'⟩
    · rw [hnone, hnone']
      exact .unset
    · rw [hpath, hpath']
      exact lookupFile_sameTold hsame
    · rw [hpasted, hpasted']
      simp only [lookupFile, if_pos hrelative, if_pos hrelative']
      exact .error _
  | some value =>
    cases hset' : other.set name with
    | none =>
      rw [henv.mpr hset'] at hset
      cases hset
    | some value' =>
      -- Two variables set are refused, whatever they hold.
      rcases hfile with ⟨hnone, hnone'⟩ | ⟨path, hpath, hpath', -⟩ |
        ⟨pasted, pasted', hpasted, hpasted', -, -⟩
      · rw [hnone, hnone']
        exact .found rfl
      · rw [hpath, hpath']
        exact .error _
      · rw [hpasted, hpasted']
        exact .error _

/-- A private key's public key tells whether it is one. -/
theorem Secrets.resolve_sameTold (hkey : host.Alike other config.serbero.privateKeyEnv)
    (hapi : host.Alike other config.judge.apiKeyEnv)
    (hpublic : ∀ key key', host.Gives config.serbero.privateKeyEnv key →
      other.Gives config.serbero.privateKeyEnv key' →
        curve.keyOf key.value = curve.keyOf key'.value) :
    (∃ why, Secrets.resolve curve config host = .error why ∧
        Secrets.resolve curve config other = .error why) ∨
      ∃ secrets secrets' warnings serbero,
        Secrets.resolve curve config host = .ok (secrets, warnings) ∧
          Secrets.resolve curve config other = .ok (secrets', warnings) ∧
            curve.publicKeyOf secrets.privateKey = some serbero ∧
              curve.publicKeyOf secrets'.privateKey = some serbero := by
  have hkeys := Host.lookup_sameTold hkey
  have hapis := Host.lookup_sameTold hapi
  unfold Secrets.resolve
  dsimp only
  generalize hlookup : host.lookup config.serbero.privateKeyEnv = answer at hkeys ⊢
  generalize hlookup' : other.lookup config.serbero.privateKeyEnv = answer' at hkeys ⊢
  cases hkeys with
  | error why => exact Or.inl ⟨why, rfl, rfl⟩
  | unset => exact Or.inl ⟨_, rfl, rfl⟩
  | @found key key' hwarning =>
    -- Both keys are valid, with one public key, or neither is.
    have hsame := hpublic key key' (Host.lookup_eq_some_iff.mp hlookup)
      (Host.lookup_eq_some_iff.mp hlookup')
    cases hserbero : curve.keyOf key.value with
    | none =>
      simp only [if_pos hserbero, if_pos (hsame.symm.trans hserbero)]
      exact Or.inl ⟨_, rfl, rfl⟩
    | some serbero =>
      have hserbero' := hsame.symm.trans hserbero
      have hkeyed : curve.keyOf key.value ≠ none := by simp [hserbero]
      have hkeyed' : curve.keyOf key'.value ≠ none := by simp [hserbero']
      simp only [if_neg hkeyed, if_neg hkeyed']
      have hpub := Curve.publicKeyOf_of_keyOf hserbero
      have hpub' := Curve.publicKeyOf_of_keyOf hserbero'
      generalize host.lookup config.judge.apiKeyEnv = api at hapis ⊢
      generalize other.lookup config.judge.apiKeyEnv = api' at hapis ⊢
      -- The judge's key is told by no more than whether it is there.
      cases hapis with
      | error why => exact Or.inl ⟨why, rfl, rfl⟩
      | unset =>
        dsimp only
        by_cases hneeded : config.mediation.enabled = true ∧ config.judge.provider ≠ "recorded" ∧
          (none : Option Found) = none
        · rw [if_pos hneeded, if_pos hneeded]
          exact Or.inl ⟨_, rfl, rfl⟩
        · rw [if_neg hneeded, if_neg hneeded, hwarning]
          exact Or.inr ⟨⟨key.value, none⟩, ⟨key'.value, none⟩, _, serbero, rfl, rfl, hpub, hpub'⟩
      | @found found found' hnext =>
        have hneither : ∀ given : Found, ¬(config.mediation.enabled = true ∧
            config.judge.provider ≠ "recorded" ∧ some given = none) := by
          rintro given ⟨-, -, hnone⟩
          cases hnone
        dsimp only
        rw [if_neg (hneither found), if_neg (hneither found'), hwarning, Option.bind_some,
          Option.bind_some, hnext]
        exact Or.inr ⟨⟨key.value, some found.value⟩, ⟨key'.value, some found'.value⟩, _, serbero,
          rfl, rfl, hpub, hpub'⟩

/-- **Nothing is told of the secrets.** On two hosts that differ in no more than the secrets, and
whose private keys have the same public key, starting fails with the same words, or warns of the
same. -/
theorem Config.Settings.parse_sameTold (hkey : host.Alike other config.serbero.privateKeyEnv)
    (hapi : host.Alike other config.judge.apiKeyEnv)
    (hpublic : ∀ key key', host.Gives config.serbero.privateKeyEnv key →
      other.Gives config.serbero.privateKeyEnv key' →
        curve.keyOf key.value = curve.keyOf key'.value) :
    (parse curve host config).map Config.Settings.warnings =
      (parse curve other config).map Config.Settings.warnings := by
  unfold parse
  cases config.validate curve with
  | error error => rfl
  | ok valid =>
    rcases Secrets.resolve_sameTold hkey hapi hpublic with ⟨why, hwhy, hwhy'⟩ |
      ⟨secrets, secrets', warnings, serbero, hresolve, hresolve', hpub, hpub'⟩
    · simp only [hwhy, hwhy']
    · simp only [hresolve, hresolve', hpub, hpub']
      cases config.checkNotSerbero serbero with
      | error error => rfl
      | ok passed => rfl

/-! ### A key spelled in two ways -/

/-- A node whose key is the curve's generator, on one relay. -/
def generatorConfig : Config where
  serbero := .default
  mostro := ⟨"79be667ef9dcbbac55a06295ce870b07029bfcdb2dce28d959f2815b16f81798",
    ["wss://relay.example"]⟩
  solvers := []
  observers := []
  notify := .default
  mediation := { MediationConfig.default with enabled := true }
  judge := .default

/-- What the curve says of the generator, and of the key of sixty-four `a`s. -/
def generatorCurve : Curve where
  isPublicKey value := caseless value == caseless generatorConfig.mostro.pubkey
  publicKeyOf value :=
    if caseless value = List.replicate 64 'a' then
      some "6a04ab98d9e4774ad806e302dddeb63bea16b5cb5f223ee77478e861bb583eb3"
    else none

/-- A disk with one file, which any user may read. -/
def sharingDisk (contents : String) : Disk where
  metadata path :=
    if path = "/run/secrets/typesafe" then .ok ⟨true, 0o644⟩ else .error "missing"
  opened path :=
    if path = "/run/secrets/typesafe" then
      .ok ⟨.ok ⟨true, 0o644⟩, fun bytes => .ok (String.ofList (contents.toList.take bytes))⟩
    else .error "missing"

/-- A host with the private key in the environment, and the judge's in a file any user may read. -/
def sharingHost (key contents : String) : Host :=
  (sharingDisk contents).host fun
    | "SERBERO_PRIVATE_KEY" => some key
    | "TYPESAFE_API_KEY_FILE" => some "/run/secrets/typesafe"
    | _ => none

/-- Two spellings of one key on the example's host. -/
theorem parse_sameTold_spelled :
    (Config.Settings.parse generatorCurve (sharingHost (String.ofList (List.replicate 64 'a')) "one")
        generatorConfig).isOk = true ∧
      (Config.Settings.parse generatorCurve
          (sharingHost (String.ofList (List.replicate 64 'a')) "one") generatorConfig).map
          Config.Settings.warnings =
        (Config.Settings.parse generatorCurve
          (sharingHost (String.ofList (List.replicate 64 'A')) "another\n") generatorConfig).map
          Config.Settings.warnings := by
  refine ⟨by decide +kernel, Config.Settings.parse_sameTold ?_ ?_ ?_⟩
  · refine ⟨?_, Or.inl ⟨?_, ?_⟩⟩
    all_goals simp only [← Host.set_eq_none_iff]
    all_goals decide +kernel
  · refine ⟨?_, Or.inr (Or.inl ⟨"/run/secrets/typesafe", by decide +kernel, by decide +kernel, rfl,
      by decide +kernel⟩)⟩
    simp only [← Host.set_eq_none_iff]
    decide +kernel
  · intro key key' hkey hkey'
    have hfound : (sharingHost (String.ofList (List.replicate 64 'a')) "one").lookup
        "SERBERO_PRIVATE_KEY" = .ok (some ⟨String.ofList (List.replicate 64 'a'), none⟩) := by
      decide +kernel
    have hfound' : (sharingHost (String.ofList (List.replicate 64 'A')) "another\n").lookup
        "SERBERO_PRIVATE_KEY" = .ok (some ⟨String.ofList (List.replicate 64 'A'), none⟩) := by
      decide +kernel
    cases (Host.lookup_eq_some_iff.mpr hkey).symm.trans hfound
    cases (Host.lookup_eq_some_iff.mpr hkey').symm.trans hfound'
    decide +kernel

end Serbero
