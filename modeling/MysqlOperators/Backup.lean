import MysqlOperators.Helpers
import Mathlib.Data.List.Sort

/-!
Backups: `BaseBackupManager`, `BackupListHelper` and the create-backup action. The
body of a `with` statement is a program that the context manager runs, so a
suppressed exception and a `return` inside the body are results of that program.
-/
namespace MysqlOperators.Backup
open MysqlOperators.Program MysqlOperators.Program.Prog MysqlOperators.External MysqlOperators.Clients
open MysqlOperators.Workload MysqlOperators.Helpers MysqlOperators.Python

/-! ### The storage and the shell -/

/-- The object storage that the backup relation configures. -/
structure BackupStorage where
  bucketName : String
  bucketPath : String
  caChain : Option String
  /-- The arguments that do not depend on the CA chain. -/
  requiredArgs : List String
  backupEnv : List (String × String)
deriving DecidableEq, Repr

def BackupStorage.buildBackupArgs (storage : BackupStorage) (caChainPath : Option String) : List String :=
  match nonEmpty caChainPath with
  | none => storage.requiredArgs
  | some path => storage.requiredArgs ++ ["--cacert=" ++ path]

structure BackupManager where
  substrate : Substrate
  storage : Option BackupStorage
deriving DecidableEq, Repr

def getStorage (m : BackupManager) : Hook BackupStorage :=
  match m.storage with
  | none => raise ⟨.runtimeError,"The backup storage is not configured"⟩
  | some storage => pure storage

/-- `shell.execute_async`: the body runs with the output of the process. On
    machines the exit code is read only if the body returned; on Kubernetes a
    failed process replaces the exception of the body. -/
def executeAsync {α : Type} (s : Substrate) (command : List String) (environ : List (String × String))
    (stdin : Option Nat) (body : Nat → Hook α) : Hook α := do
  let process ← ask (.startProcess command environ stdin)
  let failed (code : Int) : Exn := ⟨.runtimeError,"Failed to execute command: " ++ toString code⟩
  (body process).handle
    (fun a => do
      let code ← ask (.waitProcess process)
      if code ≠ 0 then raise (failed code) else pure a)
    (fun e => do
      let code ← ask (.waitProcess process)
      match s with
      | .vm => raise e
      | .k8s => if code ≠ 0 then raise (failed code) else raise e)

/-! ### The manager -/

def backupDirPrefix : String := "xtra_backup"
def certsDirName : String := "s3_ca"
def certsFileName : String := "s3-ca.pem"

def createTemporaryDir (m : BackupManager) (dirPrefix : String) : Hook String := do
  let suffix ← ask .randomSuffix
  let path := mysqlTemp m.substrate ++ "/" ++ dirPrefix ++ "_" ++ suffix
  ask (.makeDirectory path)
  pure path

def createTemporaryCa (m : BackupManager) : Hook (Option String) := do
  let storage ← getStorage m
  match nonEmpty storage.caChain with
  | none => pure none
  | some caChain =>
    let dir ← createTemporaryDir m certsDirName
    let path := dir ++ "/" ++ certsFileName
    ask (.writeText path caChain)
    pure (some path)

/-- `_temporary_file`: empty contents make no file. -/
def temporaryFile {α : Type} (contents : Option String) (body : Option String → Hook α) : Hook α :=
  match nonEmpty contents with
  | none => body none
  | some contents => do
    let name ← ask (.createTemporary contents)
    (body (some name)).finallyDo (ask (.unlink name))

def uploadFile (m : BackupManager) (contents path : String) : Hook Unit := do
  let storage ← getStorage m
  temporaryFile storage.caChain fun caChainFile => temporaryFile (some contents) fun contentsFile => do
    ask (.buildBackupClient caChainFile)
    ask (.uploadFile storage.bucketName contentsFile path)

def checkCluster : Hook Unit := do
  let instances ← ClusterClient.fetchInstances .own
  let state ← ClusterClient.fetchState
  if state ≠ some .ok ∧ state ≠ some .okPartial then
    raise ⟨.runtimeError,"Cluster is not in a healthy state"⟩
  else match instances.find? (fun entry => inProgress entry.2) with
    | some (label,_) => raise ⟨.runtimeError,"Backup already in progress in instance " ++ label⟩
    | none => pure ()
where
  /-- The selectors. `in` is membership where the errors are a list, and false on
      the empty text that stands for missing errors. -/
  inProgress (info : InstanceInfo) : Bool :=
    (match info.instanceErrors with
      | some errors => errors.contains "Instance has offline_mode enabled"
      | none => false) &&
    info.hiddenFromRouter.getD false

def checkInstance : Hook Unit := do
  let members ← InstanceClient.countClusterMembers []
  let role ← InstanceClient.fetchRole
  if role = some .primary ∧ members > 1 then raise ⟨.runtimeError,"Instance is the cluster primary"⟩
  else do
    let state ← InstanceClient.fetchState
    if state ≠ some .online then raise ⟨.runtimeError,"Instance is not in a healthy state"⟩ else pure ()

def backupCommand (s : Substrate) (cores : Nat) (username password dir : String) : List String :=
  [binary s "xtrabackup","--defaults-file=" ++ mysqlConfigDefault s,"--defaults-group=mysqld",
   "--parallel=" ++ toString cores,"--user=" ++ username,"--password=" ++ password,"--socket=" ++ mysqlSocket s,
   "--lock-ddl","--backup","--stream=xbstream","--xtrabackup-plugin-dir=" ++ backupPlugins s,"--target-dir=" ++ dir,
   "--no-version-check","--no-server-version-check"]

def uploadCommand (s : Substrate) (cores : Nat) (args : List String) (backupPath : String) : List String :=
  [binary s "xbcloud","put","--curl-retriable-errors=7","--insecure","--parallel=" ++ toString cores,"--md5",
   "--storage=s3"] ++ args ++ [backupPath]

/-- `create_backup`; the output is decoded after both processes have ended. -/
def createBackup (m : BackupManager) (backupPath username password : String) : Hook (String × String) := do
  let cores ← ask .cores
  let caChainPath ← createTemporaryCa m
  let dir ← createTemporaryDir m backupDirPrefix
  let storage ← getStorage m
  let output ← executeAsync m.substrate (backupCommand m.substrate cores username password dir) [] none fun backup =>
    executeAsync m.substrate (uploadCommand m.substrate cores (storage.buildBackupArgs caChainPath) backupPath)
      storage.backupEnv (some backup) fun upload => do
        let output ← ask (.readOutput upload)
        ask (.closeOutput upload)
        ask (.closeOutput backup)
        pure output
  match output with
  | some text => pure (text,dir)
  | none => raise ⟨.valueError,"'utf-8' codec can't decode the output"⟩

def removeBackup (m : BackupManager) : Hook Unit :=
  ServerService.shell (.removeMatching (mysqlTemp m.substrate)
    (mysqlTemp m.substrate ++ "/" ++ backupDirPrefix ++ "_*"))

/-! ### The isolated instance -/

/-- How `isolate_instance` comes to yield: one instance alone, an isolation that
    failed, an isolated instance. -/
inductive Isolation where
  | alone
  | failed
  | isolated
deriving DecidableEq, Repr

def enterIsolation : Hook Isolation := do
  let instances ← ClusterClient.fetchInstances .own
  if instances.length = 1 then pure .alone
  else
    (do ClusterClient.setInstanceOption "tag:_hidden" "true"
        InstanceClient.updateVariable "offline_mode" "ON" : Hook Unit).tryElse Exn.isExecutionError
      (fun _ => pure .failed) (fun _ => pure .isolated)

def leaveIsolation : Hook Unit :=
  (do InstanceClient.updateVariable "offline_mode" "OFF"
      ClusterClient.setInstanceOption "tag:_hidden" "false" : Hook Unit).tryExcept Exn.isExecutionError
    (fun _ => pure ())

/-- How the body of a `with` statement leaves it without an exception. -/
inductive Flow where
  | returned
  | continues
deriving DecidableEq, Repr

/-- `with isolate_instance(): body`. In an isolated instance an `Exception` of the
    body is suppressed, and the handler goes on after the statement. -/
def isolateInstance (body : Hook Flow) : Hook Flow := do
  match ← enterIsolation with
  | .alone | .failed => body
  | .isolated =>
    let flow ← body.tryExcept Exn.isException (fun _ => pure .continues)
    leaveIsolation
    pure flow

/-! ### The create-backup action -/

def buildBackupMetadata (charm : Charm) (requestTime : String) : Hook String := do
  let modelName ← ask .modelName
  let jujuVersion ← ask .jujuVersion
  pure ("Date Backup Requested: " ++ requestTime ++ "\n" ++ "Model Name: " ++ modelName ++ "\n" ++
    "App Name: " ++ charm.appName ++ "\n" ++ "Unit Name: " ++ unitName charm.appName charm.unit ++ "\n" ++
    "Juju Version: " ++ jujuVersion ++ "\n")

def skip (reason : String) : Hook Unit := ask (.fail ("Skipping backup creation: " ++ reason))

/-- The checks of an action; whether it goes on. -/
def runChecks (force : Bool) : Hook Bool :=
  (do checkCluster; checkInstance : Hook Unit).tryElse Exn.isRuntimeError
    (fun e => do
      if force then pure true
      else do
        ask (.fail ("Backup cannot be created: " ++ e.text))
        pure false)
    (fun _ => pure true)

/-- The path of the backup, once its metadata is uploaded. -/
def uploadMetadata (charm : Charm) (m : BackupManager) (requestTime : String) : Hook (Option String) := do
  let built ← (do
      let storage ← getStorage m
      let metadata ← buildBackupMetadata charm requestTime
      pure (some (storage.bucketPath ++ "/" ++ requestTime,metadata)) : Hook (Option (String × String))).tryExcept
    Exn.isRuntimeError fun e => do
      ask (.fail ("Failed to build metadata: " ++ e.text))
      pure none
  match built with
  | none => pure none
  | some (backupPath,metadata) =>
    (uploadFile m metadata (backupPath ++ ".metadata")).tryElse Exn.isException
      (fun e => do
        ask (.fail ("Failed to upload metadata: " ++ e.text))
        pure none)
      (fun _ => pure (some backupPath))

def makeBackup (m : BackupManager) (backupPath password : String) : Hook String := do
  setUnitStatus (.maintenance "Creating backup")
  let made ← createBackup m backupPath usernameBackups password
  pure made.1

def storeLog (m : BackupManager) (backupPath output : String) : Hook Unit := do
  uploadFile m output (backupPath ++ ".log")
  removeBackup m

/-- The errors of `create_backup` that the handler reports. -/
def reportsFailure (e : Exn) : Bool := e.isOSError || e.isRuntimeError

/-- `event.fail` and `return`. -/
def failAndReturn (message : String) : Hook Flow := do
  ask (.fail message)
  pure .returned

/-- The body of the `with` statement. -/
def backupBody (charm : Charm) (m : BackupManager) (backupPath : String) : Hook Flow := do
  let password ← SecretStore.getValue (secretLabel charm) passwordKeyBackups
  (makeBackup m backupPath password).tryElse reportsFailure
    (fun e => failAndReturn ("Failed to create backup: " ++ e.text))
    fun output => (storeLog m backupPath output).tryElse Exn.isRuntimeError
      (fun e => failAndReturn ("Failed to upload backup logs: " ++ e.text))
      (fun _ => pure .continues)

/-- The action up to the `with` statement: the time and the path of the backup,
    unless the action has failed. -/
def prepare (charm : Charm) (m : BackupManager) (force : Bool) : Hook (Option (String × String)) := do
  if ← ask (.relation relationBackups) then
    if ← initialized charm then
      if ← ask .refreshing then do
        skip "charm is refreshing"
        pure none
      else if ← runChecks force then do
        let requestTime := String.ofList (strftime (← ask .requestTime))
        let backupPath ← uploadMetadata charm m requestTime
        pure (backupPath.map (fun path => (requestTime,path)))
      else pure none
    else do
      skip "charm is not initialized"
      pure none
  else do
    skip ("relation " ++ relationBackups ++ " missing")
    pure none

def onCreateBackup (charm : Charm) (m : BackupManager) (force : Bool) : Hook Unit := do
  match ← prepare charm m force with
  | none => pure ()
  | some (requestTime,backupPath) =>
    match ← isolateInstance (backupBody charm m backupPath) with
    | .returned => pure ()
    | .continues => ask (.setResults "backup-id" requestTime)

/-! ### The list of backups -/

inductive BackupStatus where
  | inProgress
  | finished
  | failed
deriving DecidableEq, Repr

def BackupStatus.value : BackupStatus → String
  | inProgress => "in progress"
  | finished => "finished"
  | failed => "failed"

structure BackupInfo where
  id : String
  status : BackupStatus
deriving DecidableEq, Repr

def BackupInfo.fromStorage (backupId : String) (checksum logFile : Bool) : BackupInfo :=
  if checksum then ⟨backupId,.finished⟩
  else if logFile then ⟨backupId,.failed⟩
  else ⟨backupId,.inProgress⟩

/-- The identifiers that the files of each kind name. -/
structure FileIds where
  metadata : List String
  checksum : List String
  log : List String
deriving DecidableEq, Repr

/-- One turn of the loop of `collect_backups`. -/
def FileIds.add (ids : FileIds) (key : String) : FileIds :=
  let suffix := pathSuffix key.toList
  let stem := pathStem key.toList
  if suffix = ".metadata".toList then
    match strptime stem with
    | none => ids
    | some _ => { ids with metadata := ids.metadata ++ [String.ofList stem] }
  else if suffix = ".md5".toList then { ids with checksum := ids.checksum ++ [String.ofList stem] }
  else if suffix = ".log".toList then
    { ids with log := ids.log ++ [String.ofList (removeSuffix stem ".backup".toList)] }
  else ids

/-- The keys of the pages; a page may lack its contents. -/
def pageKeys (pages : List (Option (List String))) : List String := pages.flatMap (fun page => page.getD [])

def collectBackups (pages : List (Option (List String))) : List BackupInfo :=
  let ids := (pageKeys pages).foldl FileIds.add ⟨[],[],[]⟩
  (ids.metadata.map (fun id => BackupInfo.fromStorage id (ids.checksum.contains id) (ids.log.contains id))).insertionSort
    (fun a b => a.id ≤ b.id)

/-- `f"{text:<width}"`. -/
def padRight (text : String) (width : Nat) : String := text ++ String.ofList (List.replicate (width - text.length) ' ')

def formatRow (first second third : String) : String :=
  padRight first 21 ++ " | " ++ padRight second 12 ++ " | " ++ padRight third 12

def formatBackups (backups : List BackupInfo) : String :=
  let header := formatRow "backup-id" "backup-type" "backup-status"
  let border := String.ofList (List.replicate header.length '-')
  "\n".intercalate ([header,border] ++ backups.map (fun backup => formatRow backup.id "physical" backup.status.value))

def listBackups (m : BackupManager) : Hook String := do
  let storage ← getStorage m
  temporaryFile storage.caChain fun caChainFile => do
    ask (.buildBackupClient caChainFile)
    let pages ← ask (.listObjects storage.bucketName (storage.bucketPath ++ "/"))
    pure (formatBackups (collectBackups pages))

end MysqlOperators.Backup
