import Serbero.Lib.Ladder

/-! # Schema migrations

Ordered migrations of the database. Version `n` is the `n`th migration; each runs in a transaction
of its own together with its version record. Migrations are append-only: a release knows those of
every older release, and may add new ones. -/

namespace Serbero

/-- A schema migration. -/
structure Migration where
  name : String
  sql : String
  deriving DecidableEq, Repr

/-- A row of `schema_version`. -/
structure VersionRow where
  version : Int
  name : String
  appliedAt : Int
  deriving DecidableEq, Repr

/-- A database: its version records, if it has the table, and all its other tables. -/
structure Database (Data : Type) where
  versions : Option (List VersionRow)
  data : Data
  deriving DecidableEq, Repr

/-- Why the store cannot be opened. -/
inductive StoreError
  | store (failure : String)
  | schema (text : String)
  deriving DecidableEq, Repr

/-- What a batch of statements does to the tables, or why it fails. -/
abbrev Engine (Data : Type) := String → Data → Except String Data

/-- What else may fail in one call of `apply`, such as a full disk or a locked file, and the time of
each version record. -/
structure Hazards where
  create : Option String
  read : Option String
  begin : Nat → Option String
  batch : Nat → Option String
  insert : Nat → Option String
  commit : Nat → Option String
  unixepoch : Nat → Int

variable {Data : Type}

/-- One more than the largest `u32`. -/
def u32Count : Nat := 4294967296

namespace Database

variable (database : Database Data)

/-- `CREATE TABLE IF NOT EXISTS schema_version`. -/
def ensureTable : Database Data := { database with versions := some (database.versions.getD []) }

/-- `SELECT MAX(version) FROM schema_version`, read as a `u32`. -/
def currentVersion : Except StoreError Nat :=
  match ((database.versions.getD []).map VersionRow.version).max? with
  | none => .ok 0
  | some version =>
    if 0 ≤ version ∧ version < u32Count then .ok version.toNat
    else .error (.store "integer out of range")

end Database

/-- A step that may fail for an outside reason. -/
def orRaise {ε α : Type} (fault : Option ε) (result : Except ε α) : Except ε α :=
  match fault with
  | some failure => .error failure
  | none => result

/-- What is not raised is the result. -/
theorem ok_of_orRaise {ε α : Type} {fault : Option ε} {result : Except ε α} {value : α}
    (h : orRaise fault result = .ok value) : result = .ok value := by
  cases fault with
  | none => exact h
  | some failure => cases h

/-- The transaction of one migration: it is committed as a whole, or rolled back. -/
def migrateOne (engine : Engine Data) (hazards : Hazards) (index : Nat) (migration : Migration)
    (database : Database Data) : Except StoreError (Database Data) := do
  let version := index + 1
  orRaise ((hazards.begin version).map .store) (.ok ())
  let data ← (orRaise (hazards.batch version) (engine migration.sql database.data)).mapError
    fun failure => .schema s!"migration {version} ({migration.name}) failed: {failure}"
  orRaise ((hazards.insert version).map .store) (.ok ())
  let rows := database.versions.getD []
  if rows.any fun row => row.version == version then
    .error (.store "UNIQUE constraint failed: schema_version.version")
  else
    let row : VersionRow := ⟨version, migration.name, hazards.unixepoch version⟩
    orRaise ((hazards.commit version).map .store) (.ok ⟨some (rows ++ [row]), data⟩)

/-- Brings the database up to the latest version of the migrations. A failure leaves it at the
version before. -/
def applyMigrations (engine : Engine Data) (hazards : Hazards) (migrations : List Migration)
    (database : Database Data) : Except StoreError Nat × Database Data :=
  match hazards.create with
  | some failure => (.error (.store failure), database)
  | none =>
    let database := database.ensureTable
    match orRaise (hazards.read.map .store) database.currentVersion with
    | .error failure => (.error failure, database)
    | .ok current =>
      if u32Count ≤ migrations.length then (.error (.schema "too many migrations"), database)
      else
        let latest := migrations.length
        if latest < current then
          (.error (.schema (s!"database is at schema version {current}, but this Serbero only " ++
            s!"knows up to {latest}; upgrade Serbero or use another database")), database)
        else
          match Ladder.climb (migrateOne engine hazards) current (migrations.drop current)
              database with
          | (some failure, reached) => (.error failure, reached)
          | (none, reached) => (.ok latest, reached)

/-! ## An installation and its releases -/

/-- What is installed: the database, and the release that runs on it, by the number of migrations it
knows. -/
structure Install (Data : Type) where
  database : Database Data
  running : Option Nat

section

variable (engine : Engine Data) (shipped : List Migration) (writes : Nat → Data → Data → Prop)
  (fresh : Data)

/-- How an installation changes: a release is started, which may fail anywhere, the running release
writes to its tables, or the process ends. -/
inductive Install.Step : Install Data → Install Data → Prop
  | start (install : Install Data) (release : Nat) (hazards : Hazards)
      (hrelease : release ≤ shipped.length) :
    Step install
      ⟨(applyMigrations engine hazards (shipped.take release) install.database).2,
        (applyMigrations engine hazards (shipped.take release) install.database).1.toOption⟩
  | write (install : Install Data) (release : Nat) (data : Data)
      (hrunning : install.running = some release)
      (hwrites : writes release install.database.data data) :
    Step install ⟨{ install.database with data := data }, install.running⟩
  | stop (install : Install Data) : Step install ⟨install.database, none⟩

/-- The installations that come of a new database. -/
inductive Install.Reach : Install Data → Prop
  | new : Reach ⟨⟨none, fresh⟩, none⟩
  | step {install later : Install Data} :
    Reach install → Install.Step engine shipped writes install later → Reach later

/-- The tables at a version: every migration up to it ran once and in order, and in between only
releases of the version reached then wrote. -/
inductive Grown : Nat → Data → Prop
  | fresh : Grown 0 fresh
  | migrate {version : Nat} {data later : Data} {migration : Migration} :
    Grown version data → shipped[version]? = some migration →
      engine migration.sql data = .ok later → Grown (version + 1) later
  | write {version : Nat} {data later : Data} :
    Grown version data → writes version data later → Grown version later

end

/-- The version records of the first migrations. -/
def recordsOf (shipped : List Migration) (version : Nat) : List (Int × String) :=
  (shipped.take version).zipIdx.map fun entry => ((entry.2 : Int) + 1, entry.1.name)

namespace Database

/-- The versions on record, with the names of their migrations. -/
def records (database : Database Data) : List (Int × String) :=
  (database.versions.getD []).map fun row => (row.version, row.name)

/-- Making the table of records records nothing. -/
@[simp] theorem records_ensureTable (database : Database Data) :
    database.ensureTable.records = database.records := by
  simp [records, ensureTable]

/-- Where the table exists, there is nothing to create. -/
theorem ensureTable_eq {database : Database Data} (h : database.versions ≠ none) :
    database.ensureTable = database := by
  cases hversions : database.versions with
  | none => exact absurd hversions h
  | some rows =>
    cases database
    simp only at hversions
    simp [ensureTable, hversions]

end Database

/-! ## Records -/

/-- One migration more is one record more. -/
theorem recordsOf_succ {shipped : List Migration} {version : Nat} {migration : Migration}
    (h : shipped[version]? = some migration) :
    recordsOf shipped (version + 1) =
      recordsOf shipped version ++ [((version : Int) + 1, migration.name)] := by
  obtain ⟨hlt, -⟩ := List.getElem?_eq_some_iff.mp h
  have hlength : (shipped.take version).length = version := by
    rw [List.length_take]
    omega
  unfold recordsOf
  rw [List.take_add_one, h, Option.toList_some, List.zipIdx_append, List.map_append, hlength]
  simp

/-- The records are numbered from one. -/
theorem fst_recordsOf {shipped : List Migration} {version : Nat} (h : version ≤ shipped.length) :
    (recordsOf shipped version).map Prod.fst = (List.range version).map fun n : Nat => (n : Int) + 1 := by
  induction version with
  | zero => rfl
  | succ n ih =>
    have hlt : n < shipped.length := by omega
    rw [recordsOf_succ (List.getElem?_eq_getElem hlt), List.map_append, ih (by omega),
      List.range_succ, List.map_append]
    rfl

/-- The newest version on record is read back. -/
theorem Database.currentVersion_eq {database : Database Data} {shipped : List Migration}
    {version : Nat} (hrecords : database.records = recordsOf shipped version)
    (hle : version ≤ shipped.length) (hcount : version < u32Count) :
    database.currentVersion = .ok version := by
  have hversions : (database.versions.getD []).map VersionRow.version =
      (List.range version).map fun n : Nat => (n : Int) + 1 := by
    rw [← fst_recordsOf hle, ← hrecords, records, List.map_map]
    rfl
  unfold currentVersion
  rw [hversions]
  cases version with
  | zero => rfl
  | succ n =>
    have hmax : ((List.range (n + 1)).map fun n : Nat => (n : Int) + 1).max? = some ((n : Int) + 1) := by
      rw [List.max?_eq_some_iff]
      constructor
      · exact List.mem_map.mpr ⟨n, List.mem_range.mpr (Nat.lt_succ_self n), rfl⟩
      · intro other hother
        obtain ⟨m, hm, rfl⟩ := List.mem_map.mp hother
        rw [List.mem_range] at hm
        omega
    rw [hmax]
    simp only []
    rw [if_pos (by omega)]
    rfl

/-! ## One migration -/

/-- A migration that is committed ran its statements and left its record. -/
theorem migrateOne_spec {engine : Engine Data} {hazards : Hazards} {index : Nat}
    {migration : Migration} {database later : Database Data}
    (h : migrateOne engine hazards index migration database = .ok later) :
    engine migration.sql database.data = .ok later.data ∧
      later.records = database.records ++ [((index : Int) + 1, migration.name)] := by
  unfold migrateOne at h
  simp only [bind, Except.bind] at h
  -- The transaction begins, its statements run, and its record is inserted and committed.
  split at h
  · cases h
  split at h
  · cases h
  next data hdata =>
  split at h
  · cases h
  split at h
  · cases h
  have hlater := ok_of_orRaise h
  cases hlater
  refine ⟨?_, ?_⟩
  · cases hbatch : orRaise (hazards.batch (index + 1)) (engine migration.sql database.data) with
    | error failure =>
      rw [hbatch] at hdata
      cases hdata
    | ok found =>
      rw [hbatch] at hdata
      cases hdata
      exact ok_of_orRaise hbatch
  · simp [Database.records]

/-! ## A whole upgrade -/

/-- What is so of a database at a version. -/
structure Database.At (engine : Engine Data) (shipped : List Migration)
    (writes : Nat → Data → Data → Prop) (fresh : Data) (version : Nat) (database : Database Data) :
    Prop where
  known : version ≤ shipped.length
  counted : version < u32Count
  records : database.records = recordsOf shipped version
  grown : Grown engine shipped writes fresh version database.data

section

variable {engine : Engine Data} {shipped : List Migration} {writes : Nat → Data → Data → Prop}
  {fresh : Data} {version release : Nat} {database : Database Data}

/-- One more migration is one more version. -/
theorem Database.At.migrateOne {hazards : Hazards} {migration : Migration}
    {later : Database Data} (h : database.At engine shipped writes fresh version)
    (hcount : version + 1 < u32Count) (hmigration : shipped[version]? = some migration)
    (hone : migrateOne engine hazards version migration database = .ok later) :
    later.At engine shipped writes fresh (version + 1) := by
  obtain ⟨hdata, hrecords⟩ := migrateOne_spec hone
  obtain ⟨hlt, -⟩ := List.getElem?_eq_some_iff.mp hmigration
  refine ⟨hlt, hcount, ?_, h.grown.migrate hmigration hdata⟩
  rw [hrecords, h.records, recordsOf_succ hmigration]

/-- **An upgrade** ends at some version between the one it found and its own; without a failure, at
its own. An older release changes nothing. -/
theorem Database.At.apply (h : database.At engine shipped writes fresh version)
    (hrelease : release ≤ shipped.length) (hazards : Hazards) :
    (∃ reached, version ≤ reached ∧
      (applyMigrations engine hazards (shipped.take release) database).2.At engine shipped writes
        fresh reached ∧
      ∀ latest, (applyMigrations engine hazards (shipped.take release) database).1 = .ok latest →
        latest = release ∧ reached = release) ∧
    (release < version → (∃ failure,
      (applyMigrations engine hazards (shipped.take release) database).1 = .error failure) ∧
        (applyMigrations engine hazards (shipped.take release) database).2 = database) := by
  have hlength : (shipped.take release).length = release := by
    rw [List.length_take]
    omega
  have hensured : database.ensureTable.At engine shipped writes fresh version :=
    ⟨h.known, h.counted, (database.records_ensureTable).trans h.records, h.grown⟩
  -- A database that has a version has the table.
  have hsame : release < version → database.ensureTable = database := by
    intro hlt
    refine Database.ensureTable_eq fun hnone => ?_
    have hrecords := h.records
    rw [Database.records, hnone] at hrecords
    have hzero : (recordsOf shipped version).length = 0 := by
      rw [← hrecords]
      rfl
    have hfst := congrArg List.length (fst_recordsOf h.known)
    simp only [List.length_map, List.length_range] at hfst
    omega
  have stopped : ∀ failure : StoreError, (∃ reached, version ≤ reached ∧
      database.ensureTable.At engine shipped writes fresh reached ∧
        ∀ latest, (Except.error failure : Except StoreError Nat) = .ok latest →
          latest = release ∧ reached = release) ∧
      (release < version → (∃ other,
        (Except.error failure : Except StoreError Nat) = .error other) ∧
          database.ensureTable = database) :=
    fun failure => ⟨⟨version, Nat.le_refl _, hensured, fun _ heq => by cases heq⟩,
      fun hlt => ⟨⟨failure, rfl⟩, hsame hlt⟩⟩
  unfold applyMigrations
  split
  · next failure _ =>
    refine ⟨⟨version, Nat.le_refl _, h, fun _ heq => by cases heq⟩, fun _ => ⟨⟨_, rfl⟩, rfl⟩⟩
  simp only []
  rw [Database.currentVersion_eq hensured.records h.known h.counted, hlength]
  split
  · exact stopped _
  next current hcurrent =>
  cases ok_of_orRaise hcurrent
  split
  · exact stopped _
  next hcount =>
  split
  · exact stopped _
  next hle =>
  rw [Nat.not_lt] at hle
  have hstep : ∀ (i : Nat) (migration : Migration) (before after : Database Data),
      ((shipped.take release).drop version)[i]? = some migration →
      before.At engine shipped writes fresh (version + i) →
      Serbero.migrateOne engine hazards (version + i) migration before = .ok after →
      after.At engine shipped writes fresh (version + i + 1) := by
    intro i migration before after hmigration hbefore hone
    rw [List.getElem?_drop] at hmigration
    have hlt : version + i < release := by
      obtain ⟨hlt, -⟩ := List.getElem?_eq_some_iff.mp hmigration
      omega
    rw [List.getElem?_take_of_lt hlt] at hmigration
    exact hbefore.migrateOne (by omega) hmigration hone
  obtain ⟨reached, hreached, hat, hnone⟩ := Ladder.climb_rule hstep hensured
  rw [List.length_drop, hlength] at hreached hnone
  split
  · next failure later hclimb =>
    rw [hclimb] at hat
    exact ⟨⟨version + reached, by omega, hat, fun _ heq => by cases heq⟩, fun hlt => by omega⟩
  · next later hclimb =>
    rw [hclimb] at hat hnone
    refine ⟨⟨version + reached, by omega, hat, fun latest heq => ?_⟩, fun hlt => by omega⟩
    cases heq
    have := hnone rfl
    exact ⟨rfl, by omega⟩

/-! ## Every installation -/

/-- What is so of an installation: its database is at some version, and a release only runs at its
own. -/
def Install.Tracked (engine : Engine Data) (shipped : List Migration)
    (writes : Nat → Data → Data → Prop) (fresh : Data) (install : Install Data) : Prop :=
  ∃ version, install.database.At engine shipped writes fresh version ∧
    ∀ release, install.running = some release → release = version

/-- A step keeps the records and the schema together. -/
theorem Install.Tracked.step {install later : Install Data}
    (h : install.Tracked engine shipped writes fresh)
    (hstep : Install.Step engine shipped writes install later) :
    later.Tracked engine shipped writes fresh := by
  obtain ⟨version, hat, hrunning⟩ := h
  cases hstep with
  | start release hazards hrelease =>
    obtain ⟨⟨reached, -, hreached, hok⟩, -⟩ := hat.apply hrelease hazards
    refine ⟨reached, hreached, fun running heq => ?_⟩
    generalize applyMigrations engine hazards (shipped.take release) install.database = result
      at heq hok
    cases hresult : result.1 with
    | error failure =>
      rw [hresult] at heq
      cases heq
    | ok latest =>
      rw [hresult] at heq
      cases heq
      obtain ⟨hlatest, hsame⟩ := hok _ hresult
      exact hlatest.trans hsame.symm
  | write release data hrelease hwrites =>
    -- Whoever writes is the release of this version.
    have hsame := hrunning release hrelease
    subst hsame
    exact ⟨release, ⟨hat.known, hat.counted, hat.records, hat.grown.write hwrites⟩, hrunning⟩
  | stop => exact ⟨version, hat, fun _ heq => by cases heq⟩

/-- Every install that is reached has them together, by induction on its steps. -/
theorem Install.Tracked.reach {install : Install Data}
    (h : Install.Reach engine shipped writes fresh install) :
    install.Tracked engine shipped writes fresh := by
  induction h with
  | new => exact ⟨0, ⟨Nat.zero_le _, by decide, rfl, .fresh⟩, fun _ heq => by cases heq⟩
  | step _ hstep ih => exact ih.step hstep

/-- **The schema follows the release.** Whatever releases are started on a database, older or newer,
wherever an upgrade fails and whenever the process ends: the records are those of the migrations up
to some version, each of which ran once, as a whole and in order, a release writes only at its own
version, and an older one is refused and changes nothing. -/
theorem schema_follows_release {install : Install Data}
    (h : Install.Reach engine shipped writes fresh install) :
    ∃ version ≤ shipped.length, install.database.records = recordsOf shipped version ∧
      Grown engine shipped writes fresh version install.database.data ∧
      (∀ release, install.running = some release → release = version) ∧
      ∀ release < version, ∀ hazards,
        (∃ failure, (applyMigrations engine hazards (shipped.take release) install.database).1 =
          .error failure) ∧
        (applyMigrations engine hazards (shipped.take release) install.database).2 =
          install.database := by
  obtain ⟨version, hat, hrunning⟩ := Install.Tracked.reach h
  refine ⟨version, hat.known, hat.records, hat.grown, hrunning, fun release hlt hazards => ?_⟩
  have hknown := hat.known
  exact (hat.apply (by omega) hazards).2 hlt

/-- Where nobody writes, the tables at a version are always the same. -/
theorem Grown.unique {data other : Data}
    (h : Grown engine shipped (fun _ _ _ => False) fresh version data)
    (h' : Grown engine shipped (fun _ _ _ => False) fresh version other) : data = other := by
  induction h generalizing other with
  | fresh =>
    cases h' with
    | fresh => rfl
    | write _ hwrites => exact hwrites.elim
  | migrate _ hmigration hran ih =>
    cases h' with
    | migrate hbefore hmigration' hran' =>
      rw [hmigration', Option.some.injEq] at hmigration
      subst hmigration
      rw [ih hbefore, hran', Except.ok.injEq] at hran
      exact hran.symm
    | write _ hwrites => exact hwrites.elim
  | write _ hwrites => exact hwrites.elim

/-- **An upgrade resumes where it stopped.** Two new databases on which the same release runs have
the same tables, however often an upgrade of either failed or was cut off, and through whatever
releases it went. -/
theorem upgrades_agree {install other : Install Data}
    (h : Install.Reach engine shipped (fun _ _ _ => False) fresh install)
    (h' : Install.Reach engine shipped (fun _ _ _ => False) fresh other)
    (hrunning : install.running = some release) (hrunning' : other.running = some release) :
    install.database.data = other.database.data := by
  obtain ⟨version, hat, hsame⟩ := Install.Tracked.reach h
  obtain ⟨version', hat', hsame'⟩ := Install.Tracked.reach h'
  have hversion := hsame release hrunning
  have hversion' := hsame' release hrunning'
  subst hversion hversion'
  exact hat.grown.unique hat'.grown

end

/-! ## Two releases -/

/-- An engine that keeps the statements it ran. -/
def journal : Engine (List String) := fun sql ran => .ok (ran ++ [sql])

/-- Two migrations. -/
def twoMigrations : List Migration :=
  [⟨"create_a", "CREATE TABLE a"⟩, ⟨"create_b", "CREATE TABLE b"⟩]

/-- Nothing fails. -/
def fairWeather : Hazards :=
  ⟨none, none, fun _ => none, fun _ => none, fun _ => none, fun _ => none, fun _ => 1700⟩

/-- The disk is full when the second migration is committed. -/
def fullDisk : Hazards :=
  { fairWeather with commit := fun version => if version = 2 then (some "disk full") else none }

/-- Where the second release runs. -/
def upgraded : Install (List String) :=
  ⟨⟨some [⟨1, "create_a", 1700⟩, ⟨2, "create_b", 1700⟩], ["CREATE TABLE a", "CREATE TABLE b"]⟩,
    some 2⟩

/-- The first release is upgraded, and the upgrade fails once. -/
theorem reach_upgraded :
    Install.Reach journal twoMigrations (fun _ _ _ => False) [] upgraded :=
  .step (.step (.step .new (.start _ 1 fairWeather (by decide))) (.start _ 2 fullDisk (by decide)))
    (.start _ 2 fairWeather (by decide))

/-- Where the second release was installed later, and is the first one. -/
def installed : Install (List String) :=
  ⟨⟨some [⟨1, "create_a", 1900⟩, ⟨2, "create_b", 1900⟩], ["CREATE TABLE a", "CREATE TABLE b"]⟩,
    some 2⟩

/-- The example's install is reached. -/
theorem reach_installed :
    Install.Reach journal twoMigrations (fun _ _ _ => False) [] installed :=
  .step .new (.start _ 2 { fairWeather with unixepoch := fun _ => 1900 } (by decide))

/-- The upgraded example follows its release. -/
theorem schema_follows_release_upgraded :
    ∃ version ≤ twoMigrations.length,
      upgraded.database.records = recordsOf twoMigrations version ∧
      Grown journal twoMigrations (fun _ _ _ => False) [] version upgraded.database.data ∧
      (∀ release, upgraded.running = some release → release = version) ∧
      ∀ release < version, ∀ hazards,
        (∃ failure,
          (applyMigrations journal hazards (twoMigrations.take release) upgraded.database).1 =
            .error failure) ∧
        (applyMigrations journal hazards (twoMigrations.take release) upgraded.database).2 =
          upgraded.database :=
  schema_follows_release reach_upgraded

/-- It agrees with a new install. -/
theorem upgrades_agree_installed : upgraded.database.data = installed.database.data :=
  upgrades_agree reach_upgraded reach_installed rfl rfl

end Serbero
