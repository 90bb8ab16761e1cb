import MysqlOperators.Helpers

/-!
The configuration of the server: `CharmConfig`, `ProfileConfigHelper` and its
siblings, `ConfigManager`, `ConfigHelper` and `EventHelpers.apply_config`. A
dictionary is the list of its entries in order, and the custom configuration file
is the dictionary of texts that `configparser` writes to it and reads back.
-/
namespace MysqlOperators.Config
open MysqlOperators.Program MysqlOperators.Program.Prog MysqlOperators.External MysqlOperators.Clients
open MysqlOperators.Workload MysqlOperators.Helpers

/-! ### Settings of the charm -/

inductive Profile where
  | prod
  | test
deriving DecidableEq, Repr

inductive AuditFormat where
  | csv
  | json
deriving DecidableEq, Repr

def AuditFormat.value : AuditFormat → String
  | csv => "csv"
  | json => "json"

inductive AuditPolicy where
  | all
  | logins
  | queries
deriving DecidableEq, Repr

def AuditPolicy.value : AuditPolicy → String
  | all => "all"
  | logins => "logins"
  | queries => "queries"

inductive AuditStrategy where
  | async
  | perf
  | semi
  | sync
deriving DecidableEq, Repr

def AuditStrategy.value : AuditStrategy → String
  | async => "asynchronous"
  | perf => "performance"
  | semi => "semisynchronous"
  | sync => "synchronous"

def bytes1MiB : Int := 1048576
def bytes1GiB : Int := 1073741824
def minConns : Int := 10
def minMemory : Int := 200 * bytes1MiB

/-- The part of `CharmConfig` that the server configuration depends on. -/
structure CharmConfig where
  maxConnections : Option Int
  profile : Profile
  profileLimitMemory : Option Int
  binlogRetentionDays : Int
  logsAuditPolicy : AuditPolicy
  pluginAuditEnabled : Bool
  pluginAuditStrategy : AuditStrategy
deriving DecidableEq, Repr

namespace CharmConfig

/-- A setting that is left unset is not validated. -/
def maxConnectionsValidator : Option Int → Option String
  | none => none
  | some value =>
    if value < minConns then some ("max-connections must be equal or greater than " ++ toString minConns) else none

def profileLimitMemoryValidator : Option Int → Option String
  | none => none
  | some value =>
    if value < 600 then some "profile-limit-memory must have at least 600 MBs"
    else if value > 9999999 then some "profile-limit-memory must have at most 9999999 MBs"
    else none

def binlogRetentionDaysValidator (value : Int) : Option String :=
  if value < 1 then some "binlog-retention-days must be greater than 0" else none

/-- The errors of the validators, with the settings that they are about. -/
def errors (c : CharmConfig) : List (String × String) :=
  [("max_connections",maxConnectionsValidator c.maxConnections),
   ("profile_limit_memory",profileLimitMemoryValidator c.profileLimitMemory),
   ("binlog_retention_days",binlogRetentionDaysValidator c.binlogRetentionDays)].filterMap
    fun check => check.2.map (fun message => (check.1,message))

def Accepted (c : CharmConfig) : Prop := c.errors = []

instance (c : CharmConfig) : Decidable c.Accepted := inferInstanceAs (Decidable (c.errors = []))

theorem accepted_iff (c : CharmConfig) :
    c.Accepted ↔ (∀ n, c.maxConnections = some n → 10 ≤ n) ∧
      (∀ limit, c.profileLimitMemory = some limit → 600 ≤ limit ∧ limit ≤ 9999999) ∧ 1 ≤ c.binlogRetentionDays := by
  have connections : maxConnectionsValidator c.maxConnections = none ↔ ∀ n, c.maxConnections = some n → 10 ≤ n := by
    cases c.maxConnections with
    | none => simp [maxConnectionsValidator]
    | some n => simp [maxConnectionsValidator,minConns]
  have limits : profileLimitMemoryValidator c.profileLimitMemory = none ↔
      ∀ limit, c.profileLimitMemory = some limit → 600 ≤ limit ∧ limit ≤ 9999999 := by
    cases c.profileLimitMemory with
    | none => simp [profileLimitMemoryValidator]
    | some limit =>
      by_cases low : limit < 600
      · have fails : profileLimitMemoryValidator (some limit) ≠ none := by simp [profileLimitMemoryValidator,low]
        exact iff_of_false fails (fun all => absurd (all limit rfl).1 (by omega))
      · by_cases high : limit > 9999999
        · have fails : profileLimitMemoryValidator (some limit) ≠ none := by
            simp [profileLimitMemoryValidator,low,high]
          exact iff_of_false fails (fun all => absurd (all limit rfl).2 (by omega))
        · have passes : profileLimitMemoryValidator (some limit) = none := by
            simp [profileLimitMemoryValidator,low,high]
          refine iff_of_true passes (fun value same => ?_)
          cases same
          omega
  have days : binlogRetentionDaysValidator c.binlogRetentionDays = none ↔ 1 ≤ c.binlogRetentionDays := by
    simp [binlogRetentionDaysValidator]
  rw [Accepted,errors,← connections,← limits,← days]
  cases maxConnectionsValidator c.maxConnections <;> cases profileLimitMemoryValidator c.profileLimitMemory <;>
    cases binlogRetentionDaysValidator c.binlogRetentionDays <;> simp

end CharmConfig

/-! ### The values -/

inductive Value where
  | int (n : Int)
  | text (s : String)
deriving DecidableEq, Repr

/-- `str(val)`. -/
def Value.str : Value → String
  | int n => toString n
  | text s => s

abbrev ServerConfig := List (String × Value)

/-- The number under a key. -/
def intAt (config : ServerConfig) (key : String) : Int :=
  match config.lookup key with
  | some (.int n) => n
  | _ => 0

/-! ### The profile -/

/-- Python takes an option of zero for a missing one. -/
def nonZero : Option Int → Option Int
  | some 0 => none
  | value => value

/-- `size` raised to a multiple of `step`. -/
def roundTo (size step : Int) : Int := if size % step ≠ 0 then size + (step - size % step) else size

/-- `calculate_buffer_pool`: the pool, its chunks and the message cache. `int` cuts
    towards zero, and the products of floating-point numbers are exact for sizes
    below 2^50. -/
def calculateBufferPool (memory : Int) : Int × Option Int × Option Int :=
  let chunkSizeMinimum := bytes1MiB
  let chunkSizeDefault := bytes1MiB * 128
  let messageCacheDefault := bytes1GiB
  let poolSize := (memory * 3).tdiv 4 - messageCacheDefault
  let chosen :=
    if poolSize < 0 ∨ memory - poolSize < bytes1GiB then (memory.tdiv 2,some (bytes1MiB * 128)) else (poolSize,none)
  let poolSize := roundTo chosen.1 chunkSizeDefault
  if poolSize > bytes1GiB then
    let chunkSize := roundTo (poolSize.tdiv 8) chunkSizeMinimum
    (chunkSize * 8,some chunkSize,chosen.2)
  else (poolSize,none,chosen.2)

def calculateMaxConnections (memory : Int) : Int := memory / (12 * bytes1MiB)

/-- The memory that is left to the pool and the cache. -/
def availableMemory (maxConnections : Option Int) (memory : Int) : Int :=
  match nonZero maxConnections with
  | some n => max (memory - n * 12 * bytes1MiB) minMemory
  | none => memory

/-- The numbers of the production profile. -/
structure Sizes where
  poolSize : Int
  poolChunkSize : Int
  messageCacheSize : Int
  maxConnections : Int
deriving DecidableEq, Repr

/-- The memory that remains when the pool and a chosen cache are taken. -/
def remainingMemory (memory : Int) : Int :=
  let (poolSize,_,messageCacheSize) := calculateBufferPool memory
  memory - (poolSize + (nonZero messageCacheSize).getD 0)

def productionSizes (maxConnections : Option Int) (memory : Int) : Sizes :=
  let memory := availableMemory maxConnections memory
  let (poolSize,poolChunkSize,messageCacheSize) := calculateBufferPool memory
  { poolSize := poolSize
    poolChunkSize := (nonZero poolChunkSize).getD (128 * bytes1MiB)
    messageCacheSize := (nonZero messageCacheSize).getD (1 * bytes1GiB)
    maxConnections := (nonZero maxConnections).getD (max (calculateMaxConnections (remainingMemory memory)) minConns) }

def getProductionConfig (s : Substrate) (maxConnections : Option Int) (memory : Int) : ServerConfig :=
  let sizes := productionSizes maxConnections memory
  [("innodb_buffer_pool_size",.int sizes.poolSize),
   ("innodb_buffer_pool_chunk_size",.int sizes.poolChunkSize),
   ("innodb_log_group_home_dir",.text (mysqlLogs s)),
   ("innodb_temp_tablespaces_dir",.text (mysqlTemp s)),
   ("innodb_undo_directory",.text (mysqlLogs s)),
   ("loose-group_replication_message_cache_size",.int sizes.messageCacheSize),
   ("loose-group_replication_paxos_single_leader",.text "ON"),
   ("max_connections",.int sizes.maxConnections)]

def getTestingConfig (s : Substrate) (maxConnections : Option Int) : ServerConfig :=
  [("innodb_buffer_pool_size",.int (20 * bytes1MiB)),
   ("innodb_buffer_pool_chunk_size",.int (1 * bytes1MiB)),
   ("innodb_log_group_home_dir",.text (mysqlLogs s)),
   ("innodb_temp_tablespaces_dir",.text (mysqlTemp s)),
   ("innodb_undo_directory",.text (mysqlLogs s)),
   ("loose-group_replication_message_cache_size",.int (128 * bytes1MiB)),
   ("loose-group_replication_paxos_single_leader",.text "ON"),
   ("max_connections",.int ((nonZero maxConnections).getD 100))]

def profileConfig (s : Substrate) (profile : Profile) (memory : Int) (maxConnections : Option Int) : ServerConfig :=
  match profile with
  | .prod => getProductionConfig s maxConnections memory
  | .test => getTestingConfig s maxConnections

/-! ### The server -/

def passwordConfig : ServerConfig :=
  [("loose-validate_password.check_user_name",.text "ON"),
   ("loose-validate_password.length",.int 12),
   ("loose-validate_password.mixed_case_count",.int 1),
   ("loose-validate_password.number_count",.int 1),
   ("loose-validate_password.policy",.text "MEDIUM"),
   ("loose-validate_password.special_char_count",.int 0)]

def auditConfig (s : Substrate) (format : AuditFormat) (policy : AuditPolicy) (strategy : AuditStrategy) :
    ServerConfig :=
  [("loose-audit_log_filter.file",.text (mysqlLogs s ++ "/audit.log")),
   ("loose-audit_log_filter.format",.text format.value),
   ("loose-audit_log_filter.policy",.text policy.value),
   ("loose-audit_log_filter.strategy",.text strategy.value)]

/-- The entries of `build_server_config` that no helper makes. -/
def baseConfig (s : Substrate) (binlogRetentionDays : Int) (instanceAddress : String) : ServerConfig :=
  [("activate_all_roles_on_login",.text "ON"),
   ("binlog_expire_logs_seconds",.int (binlogRetentionDays * 24 * 60 * 60)),
   ("datadir",.text (mysqlData s)),
   ("bind_address",.text "0.0.0.0"),
   ("admin_address",.text instanceAddress),
   ("report_host",.text instanceAddress),
   ("enforce_gtid_consistency",.text "ON"),
   ("gtid_mode",.text "ON"),
   ("general_log",.text "OFF"),
   ("general_log_file",.text (mysqlLogs s ++ "/general.log")),
   ("log_bin",.text (mysqlLogs s ++ "/binlog")),
   ("log_bin_index",.text (mysqlLogs s ++ "/binlog.index")),
   ("log_error",.text (mysqlLogs s ++ "/error.log")),
   ("log_error_services",.text "log_filter_internal;log_sink_internal"),
   ("slow_query_log_file",.text (mysqlLogs s ++ "/slow.log")),
   ("max_connect_errors",.int 10000)]

/-- The memory that `build_server_config` counts with: both numbers are compared as
    they are. -/
def limitedMemory (memoryLimit : Option Int) (runtimeMemory : Int) : Int :=
  match nonZero memoryLimit with
  | some limit => min runtimeMemory limit
  | none => runtimeMemory

/-- `build_server_config` with the memory of the runtime. No two parts have a key in
    common, so they follow each other. -/
def buildServerConfig (s : Substrate) (auditEnabled : Bool) (auditFormat : AuditFormat) (auditPolicy : AuditPolicy)
    (auditStrategy : AuditStrategy) (binlogRetentionDays : Int) (instanceAddress : String) (memoryProfile : Profile)
    (memoryLimit maxConnections : Option Int) (runtimeMemory : Int) : ServerConfig :=
  let memory := limitedMemory memoryLimit runtimeMemory
  baseConfig s binlogRetentionDays instanceAddress ++ profileConfig s memoryProfile memory maxConnections ++
    passwordConfig ++ if auditEnabled then auditConfig s auditFormat auditPolicy auditStrategy else []

/-- What `save_config` asks `build_server_config` for. -/
def configFor (s : Substrate) (c : CharmConfig) (instanceAddress : String) (runtimeMemory : Int) : ServerConfig :=
  buildServerConfig s c.pluginAuditEnabled .json c.logsAuditPolicy c.pluginAuditStrategy c.binlogRetentionDays
    instanceAddress c.profile c.profileLimitMemory c.maxConnections runtimeMemory

theorem configFor_keys_nodup (s : Substrate) (c : CharmConfig) (instanceAddress : String) (runtimeMemory : Int) :
    ((configFor s c instanceAddress runtimeMemory).map Prod.fst).Nodup := by
  have names : (baseConfig s c.binlogRetentionDays instanceAddress ++ getTestingConfig s none ++ passwordConfig ++
      auditConfig s .json c.logsAuditPolicy c.pluginAuditStrategy).map Prod.fst =
      (baseConfig .vm 1 "" ++ getTestingConfig .vm none ++ passwordConfig ++ auditConfig .vm .json .all .async).map
        Prod.fst := rfl
  have full : ((baseConfig s c.binlogRetentionDays instanceAddress ++ getTestingConfig s none ++ passwordConfig ++
      auditConfig s .json c.logsAuditPolicy c.pluginAuditStrategy).map Prod.fst).Nodup := by
    rw [names]
    decide +kernel
  have profile (memory : Int) : (profileConfig s c.profile memory c.maxConnections).map Prod.fst =
      (getTestingConfig s none).map Prod.fst := by
    cases c.profile <;> rfl
  rw [List.map_append] at full
  simp only [configFor,buildServerConfig,List.map_append,profile] at full ⊢
  split
  · exact full
  · simpa using (List.nodup_append.mp full).1

/-! ### The files and the variables -/

namespace ConfigManager

def staticKeys : List String := ["admin_address","report_host","log_error"]
def auditStaticKeys : List String := ["loose-audit_log_filter.format","loose-audit_log_filter.strategy"]
def profileStaticKeys : List String :=
  ["innodb_buffer_pool_size","innodb_buffer_pool_chunk_size","loose-group_replication_message_cache_size"]
def passwordStaticKeys : List String := []
def allStaticKeys : List String := staticKeys ++ auditStaticKeys ++ profileStaticKeys ++ passwordStaticKeys

def readServerConfig : Hook Databag := ask .readServerConfig

/-- The entries as texts. -/
def texts (config : ServerConfig) : Databag := config.map (fun entry => (entry.1,entry.2.str))

def writeServerConfig (config : ServerConfig) : Hook Unit := ask (.writeServerConfig (texts config))

/-- The keys of one configuration alone, and the common ones with different values. -/
def computeDiff (config1 config2 : Databag) : List String :=
  let keys1 := config1.map Prod.fst
  let keys2 := config2.map Prod.fst
  let similarKeys := keys1.filter keys2.contains
  let distinctKeys := keys1.filter (fun key => !keys2.contains key) ++ keys2.filter (fun key => !keys1.contains key)
  distinctKeys ++ similarKeys.filter (fun key => config1.lookup key != config2.lookup key)

def checkStaticKey (keys : List String) : Bool := keys.any allStaticKeys.contains

def filterStaticKeys (keys : List String) : List String := keys.filter (fun key => !allStaticKeys.contains key)

def updateDynamicVar (key value : String) : Hook Unit := InstanceClient.updateVariable key value

end ConfigManager

/-- The order in which Python runs through a set. -/
structure SetOrder where
  arrange : List String → List String
  perm : ∀ keys, (arrange keys).Perm keys

namespace ConfigHelper
open ConfigManager

/-- `key.removeprefix("loose-")`. -/
def variableOf (key : String) : String :=
  match key.toList.dropPrefix? "loose-".toList with
  | some rest => String.ofList rest
  | none => key

def checkRestart (configOld configNew : Databag) : Bool := checkStaticKey (computeDiff configOld configNew)

/-- `config_new[key]`. -/
def valueAt (config : Databag) (key : String) : Hook String :=
  match config.lookup key with
  | none => raise ⟨.lookupError,key⟩
  | some value => pure value

def applyEach (configNew : Databag) : List String → Hook Unit
  | [] => pure ()
  | key :: rest => do
    let value ← valueAt configNew key
    updateDynamicVar (variableOf key) value
    applyEach configNew rest

def applyConfig (order : SetOrder) (configOld configNew : Databag) : Hook Unit :=
  applyEach configNew (order.arrange (filterStaticKeys (computeDiff configOld configNew)))

def loadConfig : Hook Databag := readServerConfig

def saveConfig (charm : Charm) (c : CharmConfig) : Hook Databag := do
  let instanceAddress ← getUnitAddress charm charm.unit relationPeers
  let runtimeMemory ← ask .memory
  let config := configFor charm.substrate c instanceAddress runtimeMemory
  writeServerConfig config
  pure (texts config)

end ConfigHelper

/-- `EventHelpers.apply_config`. -/
def applyConfig (charm : Charm) (order : SetOrder) (c : CharmConfig) : Hook Unit :=
  (do let configOld ← ConfigHelper.loadConfig
      let configNew ← ConfigHelper.saveConfig charm c
      pure (configOld,configNew) : Hook (Databag × Databag)).tryElse Exn.isFileNotFound (fun _ => pure ()) fun configs => do
    ConfigHelper.applyConfig order configs.1 configs.2
    let restart := ConfigHelper.checkRestart configs.1 configs.2
    if (← initialized charm) && restart then ask (.requestLock "restart")

/-- `_on_config_changed`. -/
def onConfigChanged (charm : Charm) (order : SetOrder) (c : CharmConfig) : Hook Unit := do
  if ← ask .refreshing then pure () else applyConfig charm order c

end MysqlOperators.Config
