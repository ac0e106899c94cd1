import Surface.Storage.Migrations

/-!
# Surface.Storage.Opening

Two calls of `Storage::open` on one file. A migration is looked up in one statement and run in a
later transaction, and its statements cannot be run twice.

* `schemaAt`, `MigratedTo`: the file after the first migrations of the list.
* `Runnable`: what the transaction of a migration has to find.
* `concurrentOpen_iff`: both calls succeed, with every migration run once, exactly when each
  transaction finds that.
-/

namespace Surface

/-! ## The objects of the file -/

namespace SchemaStatement

def defineAll : List SchemaStatement → Schema → Option Schema
  | [], schema => some schema
  | statement :: batch, schema => (statement.define schema).bind (defineAll batch)

def touchAll (foreignKeys : Bool) : List SchemaStatement → TableRows → Option TableRows
  | [], rows => some rows
  | statement :: batch, rows => (statement.touch foreignKeys rows).bind (touchAll foreignKeys batch)

variable {foreignKeys : Bool}

/-- A batch succeeds when its objects and its rows both allow it. -/
theorem execBatch_eq (batch : List SchemaStatement) : ∀ (schema : Schema) (rows : TableRows),
    execBatch foreignKeys batch schema rows =
      (defineAll batch schema).bind fun schema =>
        (touchAll foreignKeys batch rows).map fun rows => (schema, rows) := by
  induction batch with
  | nil =>
    intro schema rows
    rfl
  | cons statement batch ih =>
    intro schema rows
    simp only [execBatch, defineAll, touchAll]
    cases hdefine : statement.define schema with
    | none => rfl
    | some schema' =>
      cases htouch : statement.touch foreignKeys rows with
      | none => simp
      | some rows' => exact ih schema' rows'

/-- No statement takes a name away. -/
theorem names_define {statement : SchemaStatement} {schema schema' : Schema} {name : String} :
    statement.define schema = some schema' → name ∈ schema.names → name ∈ schema'.names := by
  intro h hname
  cases statement with
  | createTable table columns =>
    simp only [define, Option.ite_none_left_eq_some] at h
    cases h.2
    simp only [Schema.names, List.map_append, List.mem_append] at hname ⊢
    tauto
  | createIndex index table columns =>
    simp only [define] at h
    split at h
    · cases h
    · simp only [Option.ite_none_left_eq_some] at h
      cases h.2
      simp only [Schema.names, List.mem_append] at hname ⊢
      tauto
  | createTrigger trigger table =>
    simp only [define, Option.ite_none_left_eq_some] at h
    cases h.2
    exact hname
  | addColumn table column default references =>
    simp only [define] at h
    split at h
    · cases h
    · simp only [Option.ite_none_left_eq_some] at h
      cases h.2
      have hmap : ((schema.tables.map fun entry => if entry.1 = table
          then (entry.1, entry.2 ++ [column]) else entry).map Prod.fst) =
          schema.tables.map Prod.fst := by
        rw [List.map_map]
        refine List.map_congr_left (fun entry _ => ?_)
        simp only [Function.comp]
        split <;> rfl
      simp only [Schema.names] at hname ⊢
      rw [hmap]
      exact hname
  | insertRow table key =>
    simp only [define, Option.ite_none_left_eq_some] at h
    cases h.2
    exact hname

theorem names_defineAll {batch : List SchemaStatement} {name : String} :
    ∀ {schema schema' : Schema}, defineAll batch schema = some schema' → name ∈ schema.names →
      name ∈ schema'.names := by
  induction batch with
  | nil =>
    intro schema schema' h hname
    cases h
    exact hname
  | cons statement batch ih =>
    intro schema schema' h hname
    simp only [defineAll, Option.bind_eq_some_iff] at h
    obtain ⟨middle, hmiddle, hrest⟩ := h
    exact ih hrest (names_define hmiddle hname)

/-- The table a migration creates first. -/
def firstTable : List SchemaStatement → Option String
  | .createTable name _ :: _ => some name
  | _ => none

theorem firstTable_defineAll {batch : List SchemaStatement} {name : String}
    {schema schema' : Schema} (hfirst : firstTable batch = some name) :
    defineAll batch schema = some schema' → name ∈ schema'.names := by
  intro h
  unfold firstTable at hfirst
  split at hfirst
  · cases hfirst
    simp only [defineAll, Option.bind_eq_some_iff] at h
    obtain ⟨middle, hmiddle, hrest⟩ := h
    refine names_defineAll hrest ?_
    simp only [define, Option.ite_none_left_eq_some] at hmiddle
    cases hmiddle.2
    simp [Schema.names]
  · cases hfirst

theorem defineAll_of_mem {batch : List SchemaStatement} {name : String} {schema : Schema}
    (hfirst : firstTable batch = some name) (hname : name ∈ schema.names) :
    defineAll batch schema = none := by
  unfold firstTable at hfirst
  split at hfirst
  · cases hfirst
    simp [defineAll, define, hname]
  · cases hfirst

end SchemaStatement

/-! ## Levels -/

open SchemaStatement

/-- The objects the first migrations leave. -/
def schemaAt : Nat → Schema
  | 0 => .empty
  | n + 1 =>
    match migrations[n]? with
    | none => schemaAt n
    | some (_, sql) => (defineAll sql (schemaAt n)).getD (schemaAt n)

theorem defineAll_schemaAt {n : Nat} {version : Int} {sql : List SchemaStatement} :
    migrations[n]? = some (version, sql) →
      defineAll sql (schemaAt n) = some (schemaAt (n + 1)) := by
  intro h
  have hdefined : ∀ n < migrations.length, ∀ entry ∈ migrations[n]?,
      (defineAll entry.2 (schemaAt n)).isSome := by decide +kernel
  have hlt : n < migrations.length := (List.getElem?_eq_some_iff.mp h).1
  obtain ⟨schema, hschema⟩ := Option.isSome_iff_exists.mp (hdefined n hlt _ h)
  rw [hschema, schemaAt, h]
  simp only [hschema, Option.getD_some]

/-- Every migration starts with a table, so it cannot be run on a file that has it. -/
theorem defineAll_again {k n : Nat} {version : Int} {sql : List SchemaStatement}
    (h : migrations[k]? = some (version, sql)) (hkn : k < n) :
    defineAll sql (schemaAt n) = none := by
  have hfirst : ∀ n < migrations.length, ∀ entry ∈ migrations[n]?,
      (firstTable entry.2).isSome := by decide
  have hlt : k < migrations.length := (List.getElem?_eq_some_iff.mp h).1
  obtain ⟨name, hname⟩ := Option.isSome_iff_exists.mp (hfirst k hlt _ h)
  refine defineAll_of_mem hname ?_
  induction n with
  | zero => omega
  | succ n ih =>
    by_cases hk : k = n
    · subst hk
      exact firstTable_defineAll hname (defineAll_schemaAt h)
    · have hmem := ih (by omega)
      cases hn : migrations[n]? with
      | none => simpa only [schemaAt, hn] using hmem
      | some entry => exact names_defineAll (defineAll_schemaAt hn) hmem

/-- The rows the second migration must not find. -/
def NoTenantRows (rows : TableRows) : Prop := rows "scans" = [] ∧ rows "audit_events" = []

theorem touchAll_isSome_iff {n : Nat} {version : Int} {sql : List SchemaStatement}
    {rows : TableRows} (h : migrations[n]? = some (version, sql)) :
    (touchAll true sql rows).isSome ↔ (version = 2 → NoTenantRows rows) := by
  have hlt : n < migrations.length := (List.getElem?_eq_some_iff.mp h).1
  match n, hlt with
  | 0, _ =>
    cases h
    simp [touchAll, touch, scanHistory]
  | 1, _ =>
    cases h
    by_cases hscans : rows "scans" = [] <;>
      simp [touchAll, touch, identityTenancy, NoTenantRows, hscans]
  | 2, _ =>
    cases h
    simp [touchAll, touch, jobsSchedulesNotifications]

namespace StorageFile

/-- The first `n` migrations have been run and recorded, once each. -/
structure MigratedTo (n : Nat) (file : StorageFile) : Prop where
  le : n ≤ migrations.length
  schema_eq : file.schema = schemaAt n
  versions_eq : file.versions = (migrations.take n).map Prod.fst
  executed_eq : file.executed = (migrations.take n).map Prod.fst

variable {file : StorageFile}

theorem mem_versions_iff {k n : Nat} {version : Int} {sql : List SchemaStatement}
    (h : file.MigratedTo n) (hk : migrations[k]? = some (version, sql)) :
    version ∈ file.versions ↔ k < n := by
  have hmem : ∀ n ≤ migrations.length, ∀ k < migrations.length, ∀ entry ∈ migrations[k]?,
      (entry.1 ∈ (migrations.take n).map Prod.fst ↔ k < n) := by decide
  rw [h.versions_eq]
  exact hmem n h.le k (List.getElem?_eq_some_iff.mp hk).1 _ hk

variable {n : Nat} {version : Int} {sql : List SchemaStatement}

theorem migrate_ok (appliedAt : Int) (h : file.MigratedTo n) (hrecorded : file.recorded.isSome)
    (hn : migrations[n]? = some (version, sql)) (hrows : version = 2 → NoTenantRows file.rows) :
    ∃ file', file.migrate version sql appliedAt = (.ok (), file') ∧ file'.MigratedTo (n + 1) ∧
      file'.recorded.isSome := by
  obtain ⟨recorded, hrecorded⟩ := Option.isSome_iff_exists.mp hrecorded
  obtain ⟨rows, htouch⟩ := Option.isSome_iff_exists.mp ((touchAll_isSome_iff hn).mpr hrows)
  have hnew : version ∉ file.versions := by
    rw [mem_versions_iff h hn]
    omega
  have htake : (migrations.take (n + 1)).map Prod.fst =
      (migrations.take n).map Prod.fst ++ [version] := by
    rw [List.take_add_one, hn, List.map_append]
    rfl
  refine ⟨⟨schemaAt (n + 1), rows, some (recorded ++ [⟨version, appliedAt⟩]),
    file.executed ++ [version]⟩, ?_, ⟨?_, rfl, ?_, ?_⟩, rfl⟩
  · simp [migrate, execBatch_eq, h.schema_eq, defineAll_schemaAt hn, htouch, hrecorded, hnew]
  · exact (List.getElem?_eq_some_iff.mp hn).1
  · rw [htake, ← h.versions_eq]
    simp [versions, hrecorded]
  · rw [htake, ← h.executed_eq]

theorem migrate_error (appliedAt : Int) {k : Nat} (h : file.MigratedTo n)
    (hk : migrations[k]? = some (version, sql))
    (hbad : k < n ∨ (version = 2 ∧ ¬ NoTenantRows file.rows)) :
    ∃ error, file.migrate version sql appliedAt = (.error error, file) := by
  refine ⟨"migration " ++ toString version ++ " failed", ?_⟩
  have hexec : execBatch true sql file.schema file.rows = none := by
    rw [execBatch_eq]
    rcases hbad with hkn | ⟨hversion, hrows⟩
    · rw [h.schema_eq, defineAll_again hk hkn]
      rfl
    · have htouch : touchAll true sql file.rows = none := by
        rw [← Option.not_isSome_iff_eq_none, touchAll_isSome_iff hk]
        exact fun hall => hrows (hall hversion)
      rw [htouch]
      simp
  rw [migrate, hexec]

theorem initializeMigrations_migratedTo (h : file.MigratedTo n) :
    file.initializeMigrations.MigratedTo n := by
  obtain ⟨hle, hschema, hversions, hexecuted⟩ := h
  exact ⟨hle, hschema, hversions, hexecuted⟩

end StorageFile

/-! ## One call among others -/

/-- What the calls do to the file: more migrations may have been applied. -/
def Advances (file file' : StorageFile) : Prop :=
  (∀ n, file.MigratedTo n → ∃ m, n ≤ m ∧ file'.MigratedTo m) ∧
    (file.recorded.isSome → file'.recorded.isSome)

theorem Advances.refl (file : StorageFile) : Advances file file :=
  ⟨fun n h => ⟨n, Nat.le_refl n, h⟩, fun h => h⟩

theorem Advances.trans (a b c : StorageFile) : Advances a b → Advances b c → Advances a c := by
  intro hab hbc
  refine ⟨fun n h => ?_, fun h => hbc.2 (hab.2 h)⟩
  obtain ⟨m, hnm, hm⟩ := hab.1 n h
  obtain ⟨k, hmk, hk⟩ := hbc.1 m hm
  exact ⟨k, by omega, hk⟩

/-- The transaction of a migration finds the migration not recorded, and the second one finds no
scans and no audit events. -/
def Runnable : OpenStep → StorageFile → Prop
  | .migrate version, file =>
    version ∉ file.versions ∧ (version = 2 → NoTenantRows file.rows)
  | _, _ => True

/-- At least the first `n` migrations are applied. -/
def AtLeast (n : Nat) (file : StorageFile) : Prop := ∃ m, n ≤ m ∧ file.MigratedTo m

/-- The same with the table of migrations in place. -/
def Initialized (n : Nat) (file : StorageFile) : Prop :=
  AtLeast n file ∧ file.recorded.isSome

theorem AtLeast.advance {n : Nat} {file file' : StorageFile} (h : AtLeast n file)
    (hadvance : Advances file file') : AtLeast n file' := by
  obtain ⟨m, hnm, hm⟩ := h
  obtain ⟨k, hmk, hk⟩ := hadvance.1 m hm
  exact ⟨k, by omega, hk⟩

theorem Initialized.advance {n : Nat} {file file' : StorageFile} (h : Initialized n file)
    (hadvance : Advances file file') : Initialized n file' :=
  ⟨h.1.advance hadvance, hadvance.2 h.2⟩

open Opening (statement)

/-- A statement that is not a transaction and keeps what is known of the file. -/
theorem statement_cooperates {α : Type} {label : OpenStep}
    {act : StorageFile → Except String α × StorageFile} {post : α → StorageFile → Prop}
    {file : StorageFile} (hlabel : ∀ t, Runnable label t)
    (hact : ∀ t, Advances file t → Advances t (act t).2 ∧
      ∃ a, (act t).1 = .ok a ∧ ∀ u, Advances (act t).2 u → post a u) :
    (statement label act).run.Cooperates Advances Runnable file post := by
  refine Program.cooperates_atomic.mpr (fun t ht => ⟨fun _ => hact t ht, fun hstray => ?_⟩)
  exact absurd (hlabel t) hstray

theorem inspectMigrations_cooperates {α : Type} {label : OpenStep} {message : String}
    {query : StorageFile → α} {post : α → StorageFile → Prop} {n : Nat} {file : StorageFile}
    (h : Initialized n file) (hlabel : ∀ t, Runnable label t)
    (hpost : ∀ t, Initialized n t → ∀ u, Advances t u → post (query t) u) :
    (inspectMigrations label message query).run.Cooperates Advances Runnable file post := by
  refine statement_cooperates hlabel (fun t ht => ⟨Advances.refl t, query t, ?_, ?_⟩)
  · simp only [ht.2 h.2, if_true]
  · exact hpost t (h.advance ht)

theorem migrate_cooperates {n : Nat} {version : Int} {sql : List SchemaStatement} {appliedAt : Int}
    {file : StorageFile} (h : Initialized n file) (hn : migrations[n]? = some (version, sql)) :
    (statement (.migrate version) fun file => file.migrate version sql appliedAt).run.Cooperates
      Advances Runnable file fun _ t => Initialized (n + 1) t := by
  refine Program.cooperates_atomic.mpr (fun t ht => ?_)
  obtain ⟨⟨m, hnm, hm⟩, hrecorded⟩ := h.advance ht
  constructor
  · rintro ⟨hnew, hrows⟩
    -- the migration is not recorded, so the file is exactly at its level
    have heq : m = n := by
      rw [StorageFile.mem_versions_iff hm hn] at hnew
      omega
    subst heq
    obtain ⟨file', hfile', hmigrated, hrecorded'⟩ :=
      StorageFile.migrate_ok appliedAt hm hrecorded hn hrows
    have hadvance : Advances t file' := by
      refine ⟨fun k hk => ⟨m + 1, ?_, hmigrated⟩, fun _ => hrecorded'⟩
      have hiff := StorageFile.mem_versions_iff hk hn
      rw [StorageFile.mem_versions_iff hm hn] at hiff
      omega
    rw [hfile']
    exact ⟨hadvance, (), rfl, fun u hu =>
      Initialized.advance ⟨⟨m + 1, Nat.le_refl _, hmigrated⟩, hrecorded'⟩ hu⟩
  · intro hstray
    have hbad : n < m ∨ (version = 2 ∧ ¬ NoTenantRows t.rows) := by
      rw [← StorageFile.mem_versions_iff hm hn]
      simp only [Runnable, not_and_or, not_not, Classical.not_imp] at hstray
      exact hstray
    obtain ⟨error, herror⟩ := StorageFile.migrate_error appliedAt hm hn hbad
    exact ⟨error, by rw [herror]⟩

theorem applyEach_cooperates {now : Int → Int} {rest : List (Int × List SchemaStatement)} :
    ∀ {n : Nat} {file : StorageFile}, migrations.drop n = rest → Initialized n file →
      (applyEach now rest).run.Cooperates Advances Runnable file
        fun _ t => AtLeast migrations.length t := by
  induction rest with
  | nil =>
    intro n file hrest h
    refine ⟨(), rfl, fun t ht => ?_⟩
    obtain ⟨m, hnm, hm⟩ := (h.advance ht).1
    exact ⟨m, by rw [List.drop_eq_nil_iff] at hrest; omega, hm⟩
  | cons entry rest ih =>
    intro n file hrest h
    obtain ⟨version, sql⟩ := entry
    have hn : migrations[n]? = some (version, sql) := by
      rw [← List.head?_drop, hrest]
      rfl
    have hrest : migrations.drop (n + 1) = rest := by
      rw [← List.tail_drop, hrest]
      rfl
    have hinspect : (inspectMigrations (.inspectState version) "could not inspect migration state"
        fun file => decide (version ∈ file.versions)).run.Cooperates Advances Runnable file
        fun applied t => Initialized n t ∧ (applied = true → AtLeast (n + 1) t) := by
      refine inspectMigrations_cooperates h (fun _ => trivial) (fun t ht u hu => ?_)
      refine ⟨ht.advance hu, fun happlied => AtLeast.advance ?_ hu⟩
      obtain ⟨⟨m, hnm, hm⟩, _⟩ := ht
      rw [decide_eq_true_iff, StorageFile.mem_versions_iff hm hn] at happlied
      exact ⟨m, by omega, hm⟩
    refine Program.Cooperates.bind Advances.refl (fun applied t ht => ?_) hinspect
    cases applied with
    | true => exact ih hrest ⟨ht.2 rfl, ht.1.2⟩
    | false =>
      exact Program.Cooperates.bind Advances.refl (fun _ t ht => ih hrest ht)
        (migrate_cooperates ht.1 hn)

/-- No file the calls see has a version that is newer than the supported one. -/
theorem max_versions_le {n : Nat} {file : StorageFile} (h : file.MigratedTo n) :
    file.versions.max?.getD 0 ≤ latestSupported := by
  have hle : ∀ n ≤ migrations.length,
      ((migrations.take n).map Prod.fst).max?.getD 0 ≤ latestSupported := by decide
  rw [h.versions_eq]
  exact hle n h.le

theorem applyMigrations_cooperates {now : Int → Int} {file : StorageFile} (h : AtLeast 0 file) :
    (applyMigrations now).run.Cooperates Advances Runnable file
      fun _ t => AtLeast migrations.length t := by
  have hfirst : (statement .initializeMigrations
      fun file => (.ok (), file.initializeMigrations)).run.Cooperates Advances Runnable file
      fun _ t => Initialized 0 t := by
    refine statement_cooperates (fun _ => trivial) (fun t ht => ?_)
    obtain ⟨m, hm, hmigrated⟩ := h.advance ht
    have hinitialized : Initialized 0 t.initializeMigrations :=
      ⟨⟨m, hm, StorageFile.initializeMigrations_migratedTo hmigrated⟩, rfl⟩
    refine ⟨⟨fun k hk => ?_, fun _ => rfl⟩, (), rfl, fun u hu => hinitialized.advance hu⟩
    exact ⟨k, Nat.le_refl k, StorageFile.initializeMigrations_migratedTo hk⟩
  refine Program.Cooperates.bind Advances.refl (fun _ t ht => ?_) hfirst
  have hinspect : (inspectMigrations .inspectVersion "could not inspect migration version"
      fun file => file.versions.max?.getD 0).run.Cooperates Advances Runnable t
      fun latestApplied u => latestApplied ≤ latestSupported ∧ Initialized 0 u := by
    refine inspectMigrations_cooperates ht (fun _ => trivial) (fun u hu v hv => ?_)
    obtain ⟨m, _, hm⟩ := hu.1
    exact ⟨max_versions_le hm, hu.advance hv⟩
  refine Program.Cooperates.bind Advances.refl (fun latestApplied u hu => ?_) hinspect
  rw [if_neg (by omega)]
  exact applyEach_cooperates rfl hu.2

theorem openStorage_cooperates {now : Int → Int} {file : StorageFile} (h : AtLeast 0 file) :
    (openStorage now).run.Cooperates Advances Runnable file
      fun _ t => AtLeast migrations.length t := by
  have hpass : ∀ (label : OpenStep), (∀ t, Runnable label t) → ∀ file, AtLeast 0 file →
      (statement label fun file => (.ok (), file)).run.Cooperates Advances Runnable file
        fun _ t => AtLeast 0 t := by
    intro label hlabel file h
    refine statement_cooperates hlabel (fun t ht => ⟨Advances.refl t, (), rfl, fun u hu => ?_⟩)
    exact (h.advance ht).advance hu
  refine Program.Cooperates.bind Advances.refl (fun _ t ht => ?_)
    (hpass .connect (fun _ => trivial) file h)
  refine Program.Cooperates.bind Advances.refl (fun _ u hu => ?_)
    (hpass .secure (fun _ => trivial) t ht)
  exact Program.Cooperates.bind Advances.refl (fun _ v hv => applyMigrations_cooperates hv)
    (hpass .foreignKeys (fun _ => trivial) u hu)

/-! ## The number of steps -/

theorem applyEach_within {now : Int → Int} (rest : List (Int × List SchemaStatement)) :
    (applyEach now rest).run.Within (2 * rest.length) := by
  induction rest with
  | nil => trivial
  | cons entry rest ih =>
    obtain ⟨version, sql⟩ := entry
    have hrest : (applyEach now rest).run.Within (1 + 2 * rest.length) := ih.mono (by omega)
    have htail : ∀ applied : Bool, (if applied then applyEach now rest else do
        statement (.migrate version) fun file => file.migrate version sql (now version)
        applyEach now rest).run.Within (1 + 2 * rest.length) := by
      intro applied
      cases applied with
      | true => exact hrest
      | false => exact Program.Within.run_bind Program.within_atomic fun _ => ih
    have hall := Program.Within.run_bind (m := 1)
      (x := inspectMigrations (.inspectState version) "could not inspect migration state"
        fun file => decide (version ∈ file.versions)) Program.within_atomic htail
    exact hall.mono (by simp only [List.length_cons]; omega)

/-- A call takes at most eleven steps. -/
theorem openStorage_within {now : Int → Int} : (openStorage now).run.Within 11 := by
  have hloop : ∀ latestApplied : Int, ExceptT.run (do
      if latestApplied > latestSupported then
        throw ("database schema version " ++ toString latestApplied ++
          " is newer than supported version " ++ toString latestSupported)
      applyEach now migrations : Opening Unit) |>.Within 6 := by
    intro latestApplied
    split
    · trivial
    · exact applyEach_within migrations
  have happly : (applyMigrations now).run.Within 8 :=
    Program.Within.run_bind (m := 1) (n := 7) Program.within_atomic fun _ =>
      Program.Within.run_bind (m := 1) Program.within_atomic hloop
  exact Program.Within.run_bind (m := 1) (n := 10) Program.within_atomic fun _ =>
    Program.Within.run_bind (m := 1) (n := 9) Program.within_atomic fun _ =>
      Program.Within.run_bind (m := 1) Program.within_atomic fun _ => happly

/-! ## Two calls -/

/-- Two calls of `Storage::open` that have not started, each with its clock. -/
def opening (now : Bool → Int → Int) (file : StorageFile) :
    Pool Bool OpenStep StorageFile (Except String Unit) :=
  ⟨file, fun call => (openStorage (now call)).run⟩

/-- Both calls return, and every migration has been run and recorded exactly once. -/
def OpenedOnce (pool : Pool Bool OpenStep StorageFile (Except String Unit)) : Prop :=
  (∀ call, pool.programs call = .done (.ok ())) ∧
    ∀ entry ∈ migrations, pool.state.executed.count entry.1 = 1 ∧
      pool.state.versions.count entry.1 = 1

theorem openedOnce_of_atLeast {pool : Pool Bool OpenStep StorageFile (Except String Unit)}
    (hok : ∀ call, pool.programs call = .done (.ok ()))
    (h : AtLeast migrations.length pool.state) : OpenedOnce pool := by
  obtain ⟨m, hle, hm⟩ := h
  have heq : m = migrations.length := Nat.le_antisymm hm.le hle
  subst heq
  refine ⟨hok, fun entry hentry => ?_⟩
  have hcount : ∀ entry ∈ migrations, ((migrations.take migrations.length).map Prod.fst).count
      entry.1 = 1 := by decide
  rw [hm.executed_eq, hm.versions_eq]
  exact ⟨hcount entry hentry, hcount entry hentry⟩

/-- Whatever the order of the steps, the calls succeed exactly when each transaction finds its
migration not yet committed and, for the second one, no rows it would have to change. -/
theorem concurrentOpen_iff {n : Nat} {file : StorageFile} (hfile : file.MigratedTo n)
    (now : Bool → Int → Int) {schedule : List Bool} (hturns : ∀ call, 11 ≤ schedule.count call) :
    OpenedOnce ((opening now file).run schedule) ↔
      allSteps Pool.step (fun call pool => pool.Ready Runnable call) schedule
        (opening now file) := by
  have hcooperative : (opening now file).Cooperative Advances Runnable
      fun _ t => AtLeast migrations.length t :=
    fun call => openStorage_cooperates ⟨n, Nat.zero_le n, hfile⟩
  have hdone : ∀ call, ∃ r, ((opening now file).run schedule).programs call = .done r :=
    fun call => Pool.run_done openStorage_within (hturns call)
  have hiff := hcooperative.ok_iff Advances.refl Advances.trans hdone
  constructor
  · rintro ⟨hok, _⟩
    exact hiff.mp fun call => ⟨(), hok call⟩
  · intro hready
    have hok : ∀ call, ((opening now file).run schedule).programs call = .done (.ok ()) := by
      intro call
      obtain ⟨_, hcall⟩ := hiff.mpr hready call
      exact hcall
    refine openedOnce_of_atLeast hok ?_
    exact (hcooperative.run Advances.refl Advances.trans hready).result Advances.refl (hok true)

/-- A file that has just been created. -/
def freshFile : StorageFile := ⟨.empty, fun _ => [], none, []⟩

theorem freshFile_migratedTo : freshFile.MigratedTo 0 := ⟨by decide, rfl, rfl, rfl⟩

/-- Both calls look the first migration up before either of them runs it. -/
def overlapping : List Bool :=
  List.replicate 6 true ++ List.replicate 6 false ++ List.replicate 5 true ++
    List.replicate 5 false

theorem concurrentOpen_fresh :
    OpenedOnce ((opening (fun _ _ => 0) freshFile).run overlapping) ↔
      allSteps Pool.step (fun call pool => pool.Ready Runnable call) overlapping
        (opening (fun _ _ => 0) freshFile) :=
  concurrentOpen_iff freshFile_migratedTo _ (by decide)

/-- The second call runs the first migration again and fails. -/
theorem concurrentOpen_overlapping :
    freshFile.MigratedTo 0 ∧ (∀ call, 11 ≤ overlapping.count call) ∧
      (((opening (fun _ _ => 0) freshFile).run overlapping).programs false).error? =
        some "migration 1 failed" ∧
      ¬ OpenedOnce ((opening (fun _ _ => 0) freshFile).run overlapping) := by
  have herror : (((opening (fun _ _ => 0) freshFile).run overlapping).programs false).error? =
      some "migration 1 failed" := by decide +kernel
  refine ⟨freshFile_migratedTo, by decide, herror, fun hopened => ?_⟩
  rw [hopened.1 false] at herror
  cases herror

end Surface
