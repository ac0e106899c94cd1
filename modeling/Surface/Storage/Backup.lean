import Surface.Storage.Migrations

/-!
# Surface.Storage.Backup

Backup and restore, step by step on a directory.

* `Component`, `Path`, `siblingTemporary`: file names.
* `Directory`: the files and their contents; what SQLite makes of a content is `Sqlite`.
* `BackupStep`, `BackupFaults`: the steps, and which of them fail.
* `verifyDatabase`, `backupDatabase`, `restoreDatabase`: the programs.
-/

namespace Surface

/-! ## Paths -/

inductive Component where
  | root
  | current
  | parent
  | name (text : String)
  /-- A file name that is not UTF-8, with the text that stands for it. -/
  | rawName (bytes : List UInt8) (lossy : String)
deriving DecidableEq

/-- The components of a path from the last to the first. -/
abbrev Path := List Component

namespace Path

def withFileName (path : Path) (name : String) : Path :=
  match path with
  | .name _ :: parent => .name name :: parent
  | .rawName _ _ :: parent => .name name :: parent
  | path => .name name :: path

/-- The file name as text. -/
def fileName (path : Path) : Option String :=
  match path with
  | .name text :: _ => some text
  | _ => none

/-- The path a text argument names. -/
def toStringLossy (path : Path) : Path :=
  path.map fun component =>
    match component with
    | .rawName _ lossy => .name lossy
    | component => component

end Path

/-- `id` is the random part of the name. -/
def siblingTemporary (path : Path) (label id : String) : Path :=
  path.withFileName ("." ++ path.fileName.getD "surface.db" ++ "." ++ label ++ "." ++ id)

/-! ## Files -/

variable {Content : Type}

def Directory (Content : Type) := Path → Option Content

namespace Directory

def put (directory : Directory Content) (path : Path) (content : Option Content) :
    Directory Content :=
  Function.update directory path content

/-- `rename` replaces its destination. -/
def rename (directory : Directory Content) (source target : Path) : Option (Directory Content) :=
  match directory source with
  | none => none
  | some content => some ((directory.put source none).put target (some content))

end Directory

/-- What SQLite answers for a file content. -/
structure Sqlite (Content : Type) where
  /-- The content of a new file. -/
  created : Content
  integrityCheck : Content → Option String
  schemaVersion : Content → Option Int
  /-- The content `VACUUM INTO` writes. -/
  vacuum : Content → Option Content

/-! ## Steps -/

/-- The file a verification reads. -/
inductive Verified where
  | input
  | temporary
  | installed

/-- After which failure a rollback is made. -/
inductive Rollback where
  | install
  | verification

inductive BackupStep where
  | openForVerification (file : Verified)
  | integrityCheck (file : Verified)
  | schemaVersion (file : Verified)
  | outputExists
  | removeTemporary
  | removePrevious
  | openSource
  | vacuumInto
  | secure
  | publish
  | databaseExists
  | preserve
  | install
  | discard
  | previousExists (rollback : Rollback)
  | reinstate (rollback : Rollback)
  | removePreserved

/-- The steps that fail, and what a failed `VACUUM INTO` leaves at its destination. -/
structure BackupFaults (Content : Type) where
  fails : BackupStep → Bool
  leftover : Option Content

abbrev BackupProgram (Content α : Type) :=
  ExceptT String (Program BackupStep (Directory Content)) α

variable (sqlite : Sqlite Content) (faults : BackupFaults Content)

/-- A step that fails changes nothing. -/
def fallible {α : Type} (label : BackupStep) (message : String)
    (act : Directory Content → Option (α × Directory Content)) : BackupProgram Content α :=
  ExceptT.mk (.atomic label fun directory =>
    match if faults.fails label then none else act directory with
    | none => (.error message, directory)
    | some (a, directory) => (.ok a, directory))

/-- `Path::exists` is false when the file cannot be looked up. -/
def existsAt (label : BackupStep) (path : Path) :
    Program BackupStep (Directory Content) Bool :=
  .atomic label fun directory =>
    (!faults.fails label && (directory path).isSome, directory)

def openReadOnly (label : BackupStep) (message : String) (path : Path) :
    BackupProgram Content Content :=
  fallible faults label message fun directory =>
    (directory path).map fun content => (content, directory)

/-- `Connection::open` creates a file that is not there. -/
def openReadWrite (label : BackupStep) (message : String) (path : Path) :
    BackupProgram Content Content :=
  fallible faults label message fun directory =>
    match directory path with
    | some content => some (content, directory)
    | none => some (sqlite.created, directory.put path (some sqlite.created))

def renameFile (label : BackupStep) (message : String) (source target : Path) :
    BackupProgram Content Unit :=
  fallible faults label message fun directory =>
    (directory.rename source target).map fun directory => ((), directory)

/-- A file that is not there is no error. -/
def removeIfExists (label : BackupStep) (path : Path) : BackupProgram Content Unit :=
  fallible faults label "could not remove temporary database" fun directory =>
    some ((), directory.put path none)

/-- `VACUUM INTO` needs a destination that is not there, and gets it as text. -/
def vacuumInto (message : String) (content : Content) (path : Path) :
    BackupProgram Content Unit :=
  ExceptT.mk (.atomic .vacuumInto fun directory =>
    match directory path.toStringLossy with
    | some _ => (.error message, directory)
    | none =>
      match if faults.fails .vacuumInto then none else sqlite.vacuum content with
      | none => (.error message, directory.put path.toStringLossy faults.leftover)
      | some copy => (.ok (), directory.put path.toStringLossy (some copy)))

/-- Permissions are not part of the directory; a file that is not there is an error. -/
def secureDatabase (path : Path) : BackupProgram Content Unit :=
  fallible faults .secure "could not restrict Surface database permissions" fun directory =>
    (directory path).map fun _ => ((), directory)

/-! ## Operations -/

def verifyDatabase (file : Verified) (path : Path) : BackupProgram Content Unit := do
  let content ← openReadOnly faults (.openForVerification file)
    "could not open database for verification" path
  let integrity ← fallible faults (.integrityCheck file)
    "could not run SQLite integrity check" fun directory =>
      (sqlite.integrityCheck content).map fun integrity => (integrity, directory)
  if integrity ≠ "ok" then
    throw ("database integrity check failed: " ++ integrity)
  let version ← fallible faults (.schemaVersion file)
    "could not inspect backup schema" fun directory =>
      (sqlite.schemaVersion content).map fun version => (version, directory)
  if version > latestSupported then
    throw ("database schema version " ++ toString version ++
      " is newer than supported version " ++ toString latestSupported)

def backupDatabase (database output : Path) (id : String) : BackupProgram Content Unit := do
  if ← existsAt faults .outputExists output then
    throw "backup destination already exists"
  let temporary := siblingTemporary output "backup" id
  removeIfExists faults .removeTemporary temporary
  let source ← openReadWrite sqlite faults .openSource "could not open database for backup" database
  vacuumInto sqlite faults "could not create SQLite backup" source temporary
  secureDatabase faults temporary
  verifyDatabase sqlite faults .temporary temporary
  renameFile faults .publish "could not publish database backup" temporary output

/-- The rollbacks of `restore_database`: an error in them is ignored. -/
def reinstate (rollback : Rollback) (previous database : Path) :
    Program BackupStep (Directory Content) Unit := do
  if ← existsAt faults (.previousExists rollback) previous then
    let _ ← (renameFile faults (.reinstate rollback) "" previous database).run

/-- The rename of the verified copy to the database, with its rollback. -/
def installTemporary (database temporary previous : Path) : BackupProgram Content Unit := do
  if let .error error ← ExceptT.lift (renameFile faults .install
      "could not install restored database" temporary database).run then
    ExceptT.lift (reinstate faults .install previous database)
    throw error

/-- The verification of the installed database, with its rollback. -/
def verifyInstalled (database previous : Path) : BackupProgram Content Unit := do
  if let .error error ← ExceptT.lift (verifyDatabase sqlite faults .installed database).run then
    let _ ← ExceptT.lift (fallible faults .discard "" fun directory =>
      (directory database).map fun _ => ((), directory.put database none)).run
    ExceptT.lift (reinstate faults .verification previous database)
    throw error

/-- The second half of `restore_database`: the verified copy takes the place of the database. -/
def installRestored (database temporary previous : Path) : BackupProgram Content Unit := do
  if ← existsAt faults .databaseExists database then
    renameFile faults .preserve "could not preserve current database" database previous
  installTemporary faults database temporary previous
  verifyInstalled sqlite faults database previous
  removeIfExists faults .removePreserved previous

def restoreDatabase (database input : Path) (temporaryId previousId : String) :
    BackupProgram Content Unit := do
  verifyDatabase sqlite faults .input input
  let temporary := siblingTemporary database "restore" temporaryId
  let previous := siblingTemporary database "previous" previousId
  removeIfExists faults .removeTemporary temporary
  removeIfExists faults .removePrevious previous
  let source ← openReadOnly faults .openSource "could not open backup for restore" input
  vacuumInto sqlite faults "could not prepare restored database" source temporary
  secureDatabase faults temporary
  verifyDatabase sqlite faults .temporary temporary
  installRestored sqlite faults database temporary previous

end Surface
