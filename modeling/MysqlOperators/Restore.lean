import MysqlOperators.Backup
import MysqlOperators.Config

/-!
Restoring: `S3BackupStorage`, the rest of `BaseBackupManager` and the restore action.
The connection info of the relation is a dictionary of texts; only the CA chain may
come as a list of its lines.
-/
namespace MysqlOperators.Restore
open MysqlOperators.Program MysqlOperators.Program.Prog MysqlOperators.External MysqlOperators.Clients
open MysqlOperators.Workload MysqlOperators.Helpers MysqlOperators.Python MysqlOperators.Backup

/-! ### The storage -/

structure ConnectionInfo where
  config : List (String × String)
  /-- `tls-ca-chain`, if it is a list. -/
  chainLines : Option (List String)
deriving DecidableEq, Repr

def stripText (drops : Char → Bool) (text : String) : String := String.ofList (strip drops text.toList)

namespace S3BackupStorage

def name : String := "s3"

def requiredParams : List String := ["bucket","access-key","secret-key"]

/-- `config.setdefault`. -/
def setDefault (config : List (String × String)) (entry : String × String) : List (String × String) :=
  match config.lookup entry.1 with
  | some _ => config
  | none => config ++ [entry]

def defaults : List (String × String) :=
  [("endpoint","https://s3.amazonaws.com"),("path","/"),("region",""),("s3-uri-style","auto"),("s3-api-version","auto")]

def buildConfig (config : List (String × String)) : Except Exn (List (String × String)) :=
  if requiredParams.all (fun key => (config.lookup key).isSome) then
    .ok ((defaults.foldl setDefault config).map fun (key,value) =>
      let value := stripText isSpace value
      (key,if key = "bucket" ∨ key = "endpoint" then stripText isSlash value else value))
  else .error ⟨.valueError,"Invalid storage configuration. Required keys missing"⟩

/-- `config[key]`, for a key that `buildConfig` leaves in the dictionary. -/
def textAt (config : List (String × String)) (key : String) : String := (config.lookup key).getD ""

def caChain (info : ConnectionInfo) (config : List (String × String)) : Option String :=
  match info.chainLines with
  | some lines => some ("\n".intercalate lines)
  | none => config.lookup "tls-ca-chain"

/-- `S3BackupStorage(config)`. -/
def new (info : ConnectionInfo) : Except Exn BackupStorage := do
  let config ← buildConfig info.config
  pure {
    bucketName := textAt config "bucket"
    bucketPath := textAt config "path"
    caChain := caChain info config
    requiredArgs := [
      "--s3-region=" ++ textAt config "region",
      "--s3-bucket=" ++ textAt config "bucket",
      "--s3-endpoint=" ++ textAt config "endpoint",
      "--s3-api-version=" ++ textAt config "s3-api-version",
      "--s3-bucket-lookup=" ++ textAt config "s3-uri-style"]
    backupEnv := [("ACCESS_KEY_ID",textAt config "access-key"),("SECRET_ACCESS_KEY",textAt config "secret-key")] }

end S3BackupStorage

/-- `S3BackupManager`, after `configure`. -/
def s3Manager (s : Substrate) (info : ConnectionInfo) : BackupManager := ⟨s,(S3BackupStorage.new info).toOption⟩

/-! ### The manager -/

def stateDirPrefix : String := "#mysql_sst"

def checkBackup (m : BackupManager) (backupPath : String) : Hook Unit := do
  let storage ← getStorage m
  temporaryFile storage.caChain fun caChainFile => do
    ask (.buildBackupClient caChainFile)
    ask (.getObject storage.bucketName backupPath)

def decompressCommand (s : Substrate) (cores : Nat) (dir : String) : List String :=
  [binary s "xbstream","--decompress","-x","--directory=" ++ dir,"--parallel=" ++ toString cores]

def downloadCommand (s : Substrate) (cores : Nat) (args : List String) (backupPath : String) : List String :=
  [binary s "xbcloud","get","--curl-retriable-errors=7","--parallel=" ++ toString cores,
   "--storage=" ++ S3BackupStorage.name] ++ args ++ [backupPath]

def downloadBackup (m : BackupManager) (backupId : String) : Hook (String × String) := do
  let cores ← ask .cores
  let caChainPath ← createTemporaryCa m
  let dir ← createTemporaryDir m stateDirPrefix
  let storage ← getStorage m
  let command := downloadCommand m.substrate cores (storage.buildBackupArgs caChainPath)
    (storage.bucketPath ++ "/" ++ backupId)
  let output ← executeAsync m.substrate command storage.backupEnv none fun download =>
    executeAsync m.substrate (decompressCommand m.substrate cores dir) [] (some download) fun decompress => do
      let output ← ask (.readOutput decompress)
      ask (.closeOutput decompress)
      ask (.closeOutput download)
      pure output
  match output with
  | some text => pure (text,dir)
  | none => raise ⟨.valueError,"'utf-8' codec can't decode the output"⟩

def prepareBackup (m : BackupManager) (backupPath : String) (poolSize : Int) : Hook String :=
  ask (.executeSync (.execute [
    binary m.substrate "xtrabackup",
    "--prepare",
    "--use-memory=" ++ toString poolSize,
    "--rollback-prepared-trx",
    "--xtrabackup-plugin-dir=" ++ backupPlugins m.substrate,
    "--target-dir=" ++ backupPath,
    "--no-version-check"]))

def restoreBackup (m : BackupManager) (backupPath : String) : Hook String :=
  ask (.executeSync (.execute [
    binary m.substrate "xtrabackup",
    "--defaults-file=" ++ mysqlConfigDefault m.substrate,
    "--defaults-group=mysqld",
    "--datadir=" ++ mysqlData m.substrate,
    "--move-back",
    "--force-non-empty-directories",
    "--xtrabackup-plugin-dir=" ++ backupPlugins m.substrate,
    "--target-dir=" ++ backupPath,
    "--no-version-check"]))

def resetDataDir (m : BackupManager) : Hook Unit :=
  ServerService.shell (.removeOthers (mysqlData m.substrate) (mysqlData m.substrate ++ "/" ++ stateDirPrefix ++ "_*"))
def resetLogsDir (m : BackupManager) : Hook Unit := ServerService.shell (.deleteContents (mysqlLogs m.substrate))
def resetTempDir (m : BackupManager) : Hook Unit := ServerService.shell (.deleteContents (mysqlTemp m.substrate))

def recreateCluster (label : String) : Hook Unit := do
  Clients.configureInstance "" ""
  Clients.recreateCluster label

/-! ### The restore action -/

/-- `backup_id.strip().strip("/")`. -/
def cleanId (given : String) : String := stripText isSlash (stripText isSpace given)

def skip (reason : String) : Hook Bool := do
  ask (.fail ("Skipping backup restoration: " ++ reason))
  pure false

/-- The conditions of the action; whether it goes on. -/
def restoreAllowed (charm : Charm) : Hook Bool := do
  if ← ask (.relation relationBackups) then
    if ← initialized charm then
      if ← ask .refreshing then skip "charm is refreshing"
      else if (← ask .plannedUnits) > 1 then skip "charm has more than one unit"
      else pure true
    else skip "charm is not initialized"
  else skip ("relation " ++ relationBackups ++ " missing")

/-- A step that the action reports as failed if it raises one of the exceptions. -/
def reporting {α : Type} (catches : Exn → Bool) (message : String) (step : Hook α) : Hook (Option α) :=
  step.tryElse catches
    (fun e => do
      ask (.fail (message ++ ": " ++ e.text))
      pure none)
    (fun a => pure (some a))

def checkExists (m : BackupManager) (backupId : String) : Hook (Option Unit) :=
  reporting Exn.isException "Failed to check for backup existence" do
    let storage ← getStorage m
    checkBackup m (storage.bucketPath ++ "/" ++ backupId ++ ".md5")

/-- The directory of the backup, downloaded and prepared. -/
def fetchBackup (m : BackupManager) (backupId : String) (bufferPool : Int) : Hook (Option String) :=
  reporting Exn.isRuntimeError "Failed to download backup" do
    setUnitStatus (.maintenance "Downloading backup")
    let downloaded ← downloadBackup m backupId
    let _ ← prepareBackup m downloaded.2 bufferPool
    pure downloaded.2

def replaceData (m : BackupManager) (path : String) : Hook (Option Unit) :=
  reporting Exn.isRuntimeError "Failed to restore backup" do
    resetDataDir m
    resetLogsDir m
    let _ ← restoreBackup m path
    resetTempDir m

/-- The action from the backup that is downloaded. -/
def restoreFrom (charm : Charm) (m : BackupManager) (path : String) : Hook Unit := do
  setUnitStatus (.maintenance "Restoring backup")
  ServerService.stop charm.substrate
  match ← replaceData m path with
  | none => pure ()
  | some _ =>
    ServerService.start charm.substrate
    setUnitStatus (← buildUnitStatus)
    match ← reporting Exn.isRuntimeError "Failed to recreate cluster"
        (recreateCluster (getUnitLabel charm charm.unit)) with
    | none => pure ()
    | some _ => ask (.setResults "completed" "ok")

/-- The action from the identifier that is left without spaces and slashes around it. -/
def restoreById (charm : Charm) (m : BackupManager) (backupId : String) : Hook Unit := do
  if backupId = "" then ask (.fail "Skipping backup restoration: missing ID")
  else
    match ← checkExists m backupId with
    | none => pure ()
    | some _ =>
      let bufferPool := (Config.calculateBufferPool (← ask .memory)).1
      match ← fetchBackup m backupId bufferPool with
      | none => pure ()
      | some path => restoreFrom charm m path

def onRestoreBackup (charm : Charm) (m : BackupManager) (given : String) : Hook Unit := do
  if ← restoreAllowed charm then restoreById charm m (cleanId given)

end MysqlOperators.Restore
