import Mathlib.Data.List.MinMax
import Surface.Atomic

/-!
# Surface.Storage.Migrations

The numbered migrations, and opening a database file.

* `Schema`, `SchemaStatement`: the objects of a file, and the statements the migrations are made
  of. A statement fails when its object is there already or when what it refers to is missing.
* `migrations`: the three migrations.
* `applyMigrations`, `openStorage`: one step for each statement outside a transaction, and one for
  each transaction.
-/

namespace Surface

/-! ## Statements -/

structure Schema where
  /-- Tables with their columns. -/
  tables : List (String × List String)
  indexes : List String
  triggers : List String
deriving DecidableEq

namespace Schema

def empty : Schema := ⟨[], [], []⟩

/-- Tables and indexes share their names. -/
def names (schema : Schema) : List String := schema.tables.map Prod.fst ++ schema.indexes

def columns (schema : Schema) (table : String) : Option (List String) :=
  (schema.tables.find? fun entry => entry.1 == table).map Prod.snd

end Schema

inductive SchemaStatement where
  | createTable (name : String) (columns : List String)
  | createIndex (name table : String) (columns : List String)
  | createTrigger (name table : String)
  | addColumn (table column : String) (default references : Option String)
  | insertRow (table key : String)

/-- The primary keys of the rows, by table. -/
abbrev TableRows := String → List String

namespace SchemaStatement

/-- What a statement does to the objects of the file. -/
def define : SchemaStatement → Schema → Option Schema
  | .createTable name columns, schema =>
    if name ∈ schema.names then none
    else some { schema with tables := schema.tables ++ [(name, columns)] }
  | .createIndex name table columns, schema =>
    match schema.columns table with
    | none => none
    | some existing =>
      if name ∈ schema.names ∨ ¬ columns ⊆ existing then none
      else some { schema with indexes := schema.indexes ++ [name] }
  | .createTrigger name table, schema =>
    if name ∈ schema.triggers ∨ schema.columns table = none then none
    else some { schema with triggers := schema.triggers ++ [name] }
  | .addColumn table column _ _, schema =>
    match schema.columns table with
    | none => none
    | some existing =>
      if column ∈ existing then none
      else some
        { schema with
          tables := schema.tables.map fun entry =>
            if entry.1 = table then (entry.1, entry.2 ++ [column]) else entry }
  | .insertRow table _, schema =>
    if schema.columns table = none then none else some schema

/-- What a statement does to the rows. With foreign keys on, a column that references another
table and has a default cannot be added to a table with rows. -/
def touch (foreignKeys : Bool) : SchemaStatement → TableRows → Option TableRows
  | .createTable name _, rows => some (Function.update rows name [])
  | .createIndex _ _ _, rows => some rows
  | .createTrigger _ _, rows => some rows
  | .addColumn table _ default references, rows =>
    if foreignKeys && references.isSome && default.isSome && !(rows table).isEmpty then none
    else some rows
  | .insertRow table key, rows =>
    if key ∈ rows table then none else some (Function.update rows table (rows table ++ [key]))

/-- The statements of a batch run in order up to the first error. -/
def execBatch (foreignKeys : Bool) : List SchemaStatement → Schema → TableRows →
    Option (Schema × TableRows)
  | [], schema, rows => some (schema, rows)
  | statement :: batch, schema, rows =>
    match statement.define schema, statement.touch foreignKeys rows with
    | some schema, some rows => execBatch foreignKeys batch schema rows
    | _, _ => none

end SchemaStatement

/-! ## The migrations -/

open SchemaStatement in
/-- `0001_scan_history.sql` -/
def scanHistory : List SchemaStatement :=
  [ createTable "scans"
      ["scan_id", "original_target", "normalized_target", "scanner_version",
        "report_schema_version", "started_at", "completed_at", "status", "interrupted",
        "finding_info_count", "finding_low_count", "finding_medium_count", "finding_high_count",
        "finding_critical_count", "report_json", "origin", "created_at"],
    createTable "scan_findings"
      ["scan_id", "finding_index", "rule_id", "severity", "target", "title"],
    createIndex "scans_target_started_idx" "scans" ["normalized_target", "started_at", "scan_id"],
    createIndex "scans_status_started_idx" "scans" ["status", "started_at", "scan_id"],
    createIndex "scan_findings_severity_idx" "scan_findings" ["severity", "scan_id"],
    createTable "audit_events"
      ["event_id", "occurred_at", "action", "resource_type", "resource_id", "outcome",
        "metadata_json"],
    createIndex "audit_events_occurred_idx" "audit_events" ["occurred_at", "event_id"],
    createTrigger "scans_report_immutable" "scans" ]

open SchemaStatement in
/-- `0002_identity_tenancy.sql` -/
def identityTenancy : List SchemaStatement :=
  [ createTable "tenants" ["tenant_id", "name", "created_at", "disabled_at"],
    insertRow "tenants" "local",
    createTable "users"
      ["user_id", "tenant_id", "username", "password_hash", "role", "created_at", "disabled_at"],
    createTable "sessions"
      ["session_id", "tenant_id", "user_id", "token_hash", "csrf_token_hash", "created_at",
        "expires_at", "last_seen_at"],
    createTable "api_tokens"
      ["token_id", "tenant_id", "user_id", "name", "token_hash", "scopes_json", "created_at",
        "expires_at", "revoked_at"],
    createTable "tenant_targets"
      ["target_id", "tenant_id", "normalized_target", "display_target",
        "authorization_attested_at", "authorization_actor_id", "created_at"],
    addColumn "scans" "tenant_id" (some "local") (some "tenants"),
    addColumn "audit_events" "tenant_id" (some "local") (some "tenants"),
    addColumn "audit_events" "actor_id" none none,
    addColumn "audit_events" "actor_kind" (some "local_cli") none,
    addColumn "audit_events" "request_id" none none,
    createIndex "scans_tenant_started_idx" "scans" ["tenant_id", "started_at", "scan_id"],
    createIndex "scans_tenant_target_started_idx" "scans"
      ["tenant_id", "normalized_target", "started_at", "scan_id"],
    createIndex "audit_events_tenant_occurred_idx" "audit_events"
      ["tenant_id", "occurred_at", "event_id"],
    createIndex "sessions_token_idx" "sessions" ["token_hash"],
    createIndex "api_tokens_token_idx" "api_tokens" ["token_hash"],
    createTrigger "scans_tenant_immutable" "scans" ]

open SchemaStatement in
/-- `0003_jobs_schedules_notifications.sql` -/
def jobsSchedulesNotifications : List SchemaStatement :=
  [ createTable "scan_jobs"
      ["job_id", "tenant_id", "creator_id", "target", "configuration_json", "state",
        "attempt_count", "available_at", "lease_owner", "lease_expires_at", "scan_id",
        "error_text", "idempotency_key", "created_at", "updated_at"],
    createIndex "scan_jobs_claim_idx" "scan_jobs"
      ["state", "available_at", "created_at", "job_id"],
    createIndex "scan_jobs_tenant_idx" "scan_jobs" ["tenant_id", "created_at", "job_id"],
    createTable "schedules"
      ["schedule_id", "tenant_id", "creator_id", "target", "configuration_json",
        "interval_seconds", "next_run_at", "enabled", "last_job_id", "created_at"],
    createIndex "schedules_due_idx" "schedules" ["enabled", "next_run_at", "schedule_id"],
    createTable "notification_endpoints"
      ["endpoint_id", "tenant_id", "url", "event_mask", "secret", "enabled", "created_at"],
    createTable "notification_deliveries"
      ["delivery_id", "tenant_id", "endpoint_id", "job_id", "payload_json", "state",
        "attempt_count", "available_at", "lease_owner", "lease_expires_at", "response_status",
        "error_text", "created_at", "updated_at"],
    createIndex "deliveries_claim_idx" "notification_deliveries"
      ["state", "available_at", "created_at", "delivery_id"] ]

def migrations : List (Int × List SchemaStatement) :=
  [(1, scanHistory), (2, identityTenancy), (3, jobsSchedulesNotifications)]

def latestSupported : Int := (migrations.getLast?.map Prod.fst).getD 0

/-! ## Opening a file -/

/-- A row of `surface_schema_migrations`. -/
structure MigrationRow where
  version : Int
  appliedAt : Int

/-- A database file: its product tables, the rows of `surface_schema_migrations` if there is such
a table, and, as a ghost, the versions of the migrations whose transaction has been committed. -/
structure StorageFile where
  schema : Schema
  rows : TableRows
  recorded : Option (List MigrationRow)
  executed : List Int

namespace StorageFile

def versions (file : StorageFile) : List Int := (file.recorded.getD []).map MigrationRow.version

/-- `CREATE TABLE IF NOT EXISTS surface_schema_migrations`. -/
def initializeMigrations (file : StorageFile) : StorageFile :=
  { file with recorded := some (file.recorded.getD []) }

/-- The transaction of a migration; after an error the file is as before. -/
def migrate (version : Int) (sql : List SchemaStatement) (appliedAt : Int) (file : StorageFile) :
    Except String Unit × StorageFile :=
  match SchemaStatement.execBatch true sql file.schema file.rows, file.recorded with
  | none, _ => (.error ("migration " ++ toString version ++ " failed"), file)
  | some _, none => (.error "could not record migration", file)
  | some (schema, rows), some recorded =>
    if version ∈ file.versions then (.error "could not record migration", file)
    else (.ok (),
      { schema := schema
        rows := rows
        recorded := some (recorded ++ [⟨version, appliedAt⟩])
        executed := file.executed ++ [version] })

end StorageFile

/-- The steps of `Storage::open`. -/
inductive OpenStep where
  | connect
  | secure
  | foreignKeys
  | initializeMigrations
  | inspectVersion
  | inspectState (version : Int)
  | migrate (version : Int)

abbrev Opening (α : Type) := ExceptT String (Program OpenStep StorageFile) α

def Opening.statement {α : Type} (label : OpenStep)
    (act : StorageFile → Except String α × StorageFile) : Opening α :=
  ExceptT.mk (.atomic label act)

open Opening (statement)

/-- A query on `surface_schema_migrations`. -/
def inspectMigrations {α : Type} (label : OpenStep) (message : String)
    (query : StorageFile → α) : Opening α :=
  statement label fun file =>
    (if file.recorded.isSome then .ok (query file) else .error message, file)

/-- The loop of `apply_migrations`; `now version` is the time the clock shows at the record. -/
def applyEach (now : Int → Int) : List (Int × List SchemaStatement) → Opening Unit
  | [] => pure ()
  | (version, sql) :: rest => do
    let applied ← inspectMigrations (.inspectState version) "could not inspect migration state"
      fun file => decide (version ∈ file.versions)
    if applied then applyEach now rest
    else do
      statement (.migrate version) fun file => file.migrate version sql (now version)
      applyEach now rest

def applyMigrations (now : Int → Int) : Opening Unit := do
  statement .initializeMigrations fun file => (.ok (), file.initializeMigrations)
  let latestApplied ← inspectMigrations .inspectVersion "could not inspect migration version"
    fun file => file.versions.max?.getD 0
  if latestApplied > latestSupported then
    throw ("database schema version " ++ toString latestApplied ++
      " is newer than supported version " ++ toString latestSupported)
  applyEach now migrations

/-- `Storage::open`: the first three steps change nothing the migrations read. -/
def openStorage (now : Int → Int) : Opening Unit := do
  statement .connect fun file => (.ok (), file)
  statement .secure fun file => (.ok (), file)
  statement .foreignKeys fun file => (.ok (), file)
  applyMigrations now

end Surface
