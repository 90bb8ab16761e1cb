import MysqlOperators.Helpers

/-!
The lifecycle events: `LifecycleManager` and `LifecycleEventHandler`, with the
first start of a unit and the election of a leader.
-/
namespace MysqlOperators.Lifecycle
open MysqlOperators.Program MysqlOperators.Program.Prog MysqlOperators.External MysqlOperators.Clients
open MysqlOperators.Workload MysqlOperators.Helpers

def rolenameMonitor : String := "charmed_stats"
def rolenameBackups : String := "charmed_backup"
def rolenameRouter : String := "charmed_router"

/-! ### The manager -/

/-- `SystemUser`. -/
structure SystemUser where
  username : String
  password : String
  roles : List String
deriving DecidableEq, Repr

namespace LifecycleManager

def setLeaderFlag (flag : Bool) : Hook Unit := ask (.setUnitData "leader" (if flag then "true" else "false"))

/-- `set_cluster_name` and `set_cluster_set_name`: the configured name, else the one
    that is already stored, else a random one. -/
def setName (key namePrefix : String) (name : Option String) : Hook Unit := do
  let stored ← (match nonEmpty name with
    | some name => pure (some name)
    | none => do
      let data ← ask (.appData key)
      pure (nonEmpty data) : Hook (Option String))
  match stored with
  | some name => ask (.setAppData key name)
  | none => do
    let hash ← ask .randomSuffix
    ask (.setAppData key (namePrefix ++ "-" ++ hash))

def setClusterName (name : Option String) : Hook Unit := setName "cluster-name" "cluster" name

def setClusterSetName (name : Option String) : Hook Unit := setName "cluster-set-domain-name" "cluster-set" name

def createSystemPassword : Hook String := InstanceClient.createPassword

def createSystemRoles (routerRole : String) : Hook Unit := do
  InstanceClient.createRouterRole routerRole
  InstanceClient.createAuthRoles

def createSystemUsers (users : List SystemUser) : Hook Unit := do
  InstanceClient.deleteRoot
  users.forM fun user => InstanceClient.createUser user.username user.password user.roles

def installSystemComponents (components : List String) : Hook Unit :=
  InstanceClient.installComponents (["binlog_utils_udf","validate_password"] ++ components)

def configureInstance (username password : String) : Hook Unit := Clients.configureInstance username password

def recreateCluster (label : String) : Hook Unit := Clients.recreateCluster label

def isClusterPrimary : Hook Bool := do
  let role ← InstanceClient.fetchRole
  pure (role == some .primary)

def promoteInstance (host : String) : Hook Unit := Clients.promoteInstance host false

def removeInstance (host label : String) (addresses : List String) : Hook Unit := do
  let primary ← findClusterPrimary addresses
  match nonEmpty primary with
  | none => pure ()
  | some primary =>
    let instances ← ClusterClient.fetchInstances (.host primary)
    if (instances.map Prod.fst).contains label then ClusterClient.removeInstance (.host primary) label host
    else pure ()

/-- `update_state`; a missing argument is fetched from the instance. -/
def updateState (role : Option InstanceRole) (state : Option String) : Hook Unit := do
  let role ← (match role with
    | some role => pure (some role)
    | none => InstanceClient.fetchRole : Hook (Option InstanceRole))
  let state ← (match nonEmpty state with
    | some state => pure (some state)
    | none => do
      let state ← InstanceClient.fetchState
      pure (state.map InstanceState.value) : Hook (Option String))
  setInstanceRole role
  setInstanceState state

end LifecycleManager

/-! ### The passwords -/

/-- The passwords of the application by their keys, as its secret holds them. -/
abbrev Passwords := Databag

/-- `passwords[key]`. -/
def passwordAt (passwords : Passwords) (key : String) : Hook String :=
  match passwords.lookup key with
  | none => raise ⟨.lookupError,key⟩
  | some password => pure password

def fetchPasswords (charm : Charm) : Hook Passwords :=
  (SecretStore.getContent (secretLabel charm)).tryExcept Exn.isValueError (fun _ => pure [])

def newPasswords : List String → Hook Passwords
  | [] => pure []
  | key :: rest => do
    let password ← LifecycleManager.createSystemPassword
    let passwords ← newPasswords rest
    pure ((key,password) :: passwords)

def createPasswords (charm : Charm) : Hook Unit := do
  let content ← newPasswords (usernameToPasswordKey.map Prod.snd)
  SecretStore.create (secretLabel charm) content

/-! ### The start -/

def initServerService : Hook Unit := do
  let audit ← ask (.configValue "plugin_audit_enabled")
  LifecycleManager.installSystemComponents (if audit = some "true" then ["audit_log_filter"] else [])

/-- The part of `_start_server_service` that follows the initialisation of the data
    directory. -/
def configureServer (charm : Charm) (passwords : Passwords) : Hook Unit := do
  ServerService.start charm.substrate
  initServerService
  LifecycleManager.createSystemRoles rolenameRouter
  let backups ← passwordAt passwords passwordKeyBackups
  let monitor ← passwordAt passwords passwordKeyMonitor
  LifecycleManager.createSystemUsers
    [⟨usernameBackups,backups,[rolenameBackups]⟩,⟨usernameMonitor,monitor,[rolenameMonitor]⟩]
  let replication ← passwordAt passwords passwordKeyReplication
  if ← isLeader then
    LifecycleManager.configureInstance usernameReplication replication
    LifecycleManager.recreateCluster (getUnitLabel charm charm.unit)
  else LifecycleManager.configureInstance usernameReplication replication

def startServerService (charm : Charm) (passwords : Passwords) : Hook Unit := do
  if ← ServerService.initialized charm.substrate then
    ServerService.start charm.substrate
    initServerService
  else do
    let operator ← passwordAt passwords passwordKeyOperator
    ServerService.setup charm.substrate usernameOperator operator
    configureServer charm passwords

def startExporterService (charm : Charm) (passwords : Passwords) : Hook Unit := do
  let monitor ← passwordAt passwords passwordKeyMonitor
  ExporterService.setup charm.substrate usernameMonitor monitor
  ExporterService.start charm.substrate

def updateState : Hook Unit := do
  if ← isLeader then
    LifecycleManager.updateState (some .primary) (some InstanceState.online.value)
    setUnitStatus (.active "Primary")
  else
    LifecycleManager.updateState (some .secondary) (some "waiting")
    setUnitStatus (.waiting "Waiting to join the cluster")
  (ask (.setPorts ServerService.port)).tryExcept Exn.isModelError (fun _ => pure ())

/-- `create_app_services`; machines need none. -/
def createAppServices (charm : Charm) : Hook Bool :=
  match charm.substrate with
  | .vm => pure true
  | .k8s =>
    (do ask (.createService (charm.appName ++ "-primary"))
        ask (.createService (charm.appName ++ "-replicas")) : Hook Unit).tryElse Exn.isRuntimeError
      (fun _ => pure false) (fun _ => pure true)

/-- `_on_start` up to the configuration file: the passwords, unless the event is
    deferred. -/
def beforeStart (charm : Charm) : Hook (Option Passwords) := do
  if ← systemReady charm.substrate then
    let passwords ← fetchPasswords charm
    if passwords.isEmpty then do
      ask .defer
      pure none
    else do
      let leader ← isLeader
      let served ← (if leader then createAppServices charm else pure true : Hook Bool)
      if served then do
        ask .saveServerConfig
        pure (some passwords)
      else do
        setUnitStatus (.blocked "Run \x60juju trust <app-name>\x60")
        ask .defer
        pure none
  else do
    ask .defer
    pure none

def onStart (charm : Charm) : Hook Unit := do
  match ← beforeStart charm with
  | none => pure ()
  | some passwords =>
    startServerService charm passwords
    startExporterService charm passwords
    updateState

/-! ### The other events -/

def onLeaderElected (charm : Charm) : Hook Unit := do
  let passwords ← fetchPasswords charm
  if passwords.isEmpty then createPasswords charm else pure ()
  LifecycleManager.setLeaderFlag true
  let name ← ask (.configValue "cluster_name")
  LifecycleManager.setClusterName name
  let setName ← ask (.configValue "cluster_set_name")
  LifecycleManager.setClusterSetName setName

def onUpdateStatus (charm : Charm) : Hook Unit := do
  if ← initialized charm then
    LifecycleManager.updateState none none
    updateAppLabels charm
    setUnitStatus (← buildUnitStatus)
    setAppStatus (← buildAppStatus)
  else pure ()

/-! ### The end of a unit -/

/-- The first peer with the leader flag in its databag. -/
def leaderAmong (peers : Option PeersRelation) : Option UnitId :=
  match peers with
  | none => none
  | some peers =>
    (peers.units.find? (fun unit => PeerStateUnit.getUnitLeaderFlag unit.2 == some true)).map Prod.fst

def findLeaderUnit : Hook (Option UnitId) := do
  let peers ← ask .peersRelation
  pure (leaderAmong peers)

def onStorageDetaching (charm : Charm) : Hook Unit := do
  if ← initialized charm then
    let leaderUnit ← findLeaderUnit
    let leaderHost ← getUnitAddress charm (leaderUnit.getD charm.unit) relationPeers
    (do if ← LifecycleManager.isClusterPrimary then LifecycleManager.promoteInstance leaderHost else pure () :
        Hook Unit).tryElse Exn.isRuntimeError (fun _ => pure ()) fun _ => do
      let host ← getUnitAddress charm charm.unit relationPeers
      LifecycleManager.removeInstance host (getUnitLabel charm charm.unit) [leaderHost]
  else pure ()

end MysqlOperators.Lifecycle
