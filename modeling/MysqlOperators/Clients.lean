import MysqlOperators.External

/-!
The clients of MySQL Shell (`managers/clients`). An `except` clause that only logs
and raises the same exception again changes nothing and is left out; a `tenacity`
loop around a query without effects is the one call that ends it.
-/
namespace MysqlOperators.Clients
open MysqlOperators.Program MysqlOperators.Program.Prog MysqlOperators.External

/-- `address.split(":")[0]`. -/
def addressHost (address : String) : String := String.ofList (address.toList.takeWhile (· != ':'))

theorem addressHost_port {host : String} (named : ':' ∉ host.toList) : addressHost (host ++ ":3306") = host := by
  have all : ∀ l : List Char, ':' ∉ l → (l ++ [':','3','3','0','6']).takeWhile (· != ':') = l := by
    intro l
    induction l with
    | nil => exact fun _ => by decide
    | cons c rest ih =>
      intro absent
      obtain ⟨first,later⟩ := not_or.mp (mt List.mem_cons.mpr absent)
      have other : (c != ':') = true := by simpa using Ne.symm first
      rw [List.cons_append,List.takeWhile_cons,if_pos other,ih later]
  have digits : (":3306" : String).toList = [':','3','3','0','6'] := by decide
  rw [addressHost,String.toList_append,digits,all _ named,String.ofList_toList]

namespace InstanceClient

/-- The statements of `create_router_role`, joined by semicolons. -/
def routerRoleScript (rolename : String) : String :=
  ";".intercalate [
    "CREATE ROLE " ++ rolename,
    "GRANT CREATE ON *.* TO " ++ rolename,
    "GRANT CREATE USER ON *.* TO " ++ rolename,
    "GRANT ALL ON *.* TO " ++ rolename ++ " WITH GRANT OPTION"]

def createRouterRole (rolename : String) : Hook Unit := do
  let _ ← ask (.executeSql .own (.script (routerRoleScript rolename)))

def createAuthRoles : Hook Unit := do
  let _ ← ask (.executeSql .own .instanceAuthRoles)

/-- `create_password` draws letters and digits until all three kinds occur. -/
def createPassword : Hook String := ask .randomPassword

def createUser (username password : String) (roles : List String) : Hook Unit :=
  ask (.createUser .own username password roles)

/-- The statements of `create_database_user`, joined by semicolons. -/
def databaseUserScript (database username : String) : String :=
  ";".intercalate [
    "GRANT USAGE ON *.* TO `" ++ username ++ "`",
    "GRANT ALL PRIVILEGES ON `" ++ database ++ "`.* TO `" ++ username ++ "`"]

def createDatabaseUser (at_ : Target) (database username password : String) (roles : List String) : Hook Unit := do
  ask (.createUser at_ username password roles)
  if roles.isEmpty then
    let _ ← ask (.executeSql at_ (.script (databaseUserScript database username)))

def deleteRoot : Hook Unit := ask (.deleteUser .own "root" "localhost")

def fetchRole : Hook (Option InstanceRole) := ask (.instanceRole .own)

def fetchState : Hook (Option InstanceState) := ask (.instanceState .own)

def fetchClusterLabels : Hook (List String) :=
  (ask (.clusterLabels .own)).tryExcept Exn.isExecutionError (fun _ => pure [])

/-- `count_cluster_members`; without states, members in any state count. -/
def countClusterMembers (states : List InstanceState) : Hook Nat :=
  (ask (.searchMembers .own states)).tryElse Exn.isExecutionError (fun _ => pure 0)
    (fun members => pure members.length)

/-- The components that `install_components` knows. -/
def systemComponents : List (String × String) :=
  [("audit_log_filter","file://component_audit_log_filter"),
   ("binlog_utils_udf","file://component_binlog_utils_udf"),
   ("validate_password","file://component_validate_password")]

def installEach (installed : List String) : List String → Hook Unit
  | [] => pure ()
  | component :: rest => do
    match systemComponents.lookup component with
    | some urn => if installed.contains urn then pure () else ask (.installComponent .own urn)
    | none => pure ()
    installEach installed rest

def installComponents (components : List String) : Hook Unit := do
  let installed ← ask (.searchComponents .own)
  installEach installed components

def stopReplication : Hook Unit :=
  (ask (.stopReplication .own)).tryExcept Exn.isExecutionError (fun _ => pure ())

def updateVariable (name value : String) : Hook Unit := ask (.setVariable .own name value)

def updateUser (at_ : Target) (username password : String) : Hook Unit :=
  ask (.updateUser at_ username password)

end InstanceClient

namespace ClusterClient

def fetchInstances (at_ : Target) : Hook (List (String × InstanceInfo)) :=
  (ask (.clusterStatus at_)).tryElse Exn.isExecutionError (fun _ => pure [])
    (fun status => pure status.topology)

def fetchPrimaryHost (at_ : Target) : Hook (Option String) :=
  (ask (.clusterStatus at_)).tryElse Exn.isExecutionError (fun _ => pure none) fun status =>
    if status.status = .noQuorum then pure none
    else match status.primary with
      | some address => pure (some (addressHost address))
      | none => raise ⟨.attributeError,"'NoneType' object has no attribute 'split'"⟩

def fetchRole : Hook (Option ClusterRole) :=
  (ask (.clusterStatus .own)).tryElse Exn.isExecutionError (fun _ => pure none)
    (fun status => pure (some status.clusterRole))

def fetchState : Hook (Option ClusterStatus) :=
  (ask (.clusterStatus .own)).tryElse Exn.isExecutionError (fun _ => pure none)
    (fun status => pure (some status.status))

def acquireLock (at_ : Target) (label task : String) : Hook Unit := do
  let locks ← ask (.executeSql at_ (.lockAcquire task label))
  if locks.contains label then pure () else raise ⟨.runtimeError,"Failed to acquire lock " ++ task⟩

def releaseLock (at_ : Target) (label task : String) : Hook Unit := do
  let locks ← ask (.executeSql at_ (.lockRelease task label))
  if locks.contains label then raise ⟨.runtimeError,"Failed to release lock " ++ task⟩ else pure ()

/-- `_locking`: ten attempts to acquire, and a release however the body ends. -/
def locking (at_ : Target) (label task : String) (body : Hook Unit) : Hook Unit := do
  retry 9 Exn.isException (acquireLock at_ label task)
  body.finallyDo (releaseLock at_ label task)

/-- `INSTANCE_ADDITION_TASK` and `INSTANCE_REMOVAL_TASK` of the lock builder. -/
def additionTask : String := "unit-add"
def removalTask : String := "unit-teardown"

/-- `add_instance` with its default method. -/
def addInstance (at_ : Target) (label host : String) : Hook Unit :=
  locking at_ label additionTask <|
    (ask (.attachInstance at_ label host "auto")).tryExcept Exn.isExecutionError fun _ =>
      ask (.attachInstance at_ label host "clone")

def create (label : String) : Hook Unit := do
  ask (.createCluster .own)
  ask (.updateInstance .own "label" label)

def dropMetadata : Hook Unit := ask (.dropMetadata .own)

def initLocksTable : Hook Unit := do
  let _ ← ask (.executeSql .own .lockTableCreation)

def promoteInstance (at_ : Target) (host : String) (force : Bool) : Hook Unit :=
  if force then ask (.forceQuorum at_ host) else ask (.promoteInstance at_ host)

def rejoinInstance (at_ : Target) (label host : String) : Hook Unit :=
  locking at_ label additionTask (ask (.rejoinInstance at_ host))

def removeInstance (at_ : Target) (label host : String) : Hook Unit := do
  let primary ← fetchPrimaryHost at_
  if primary = some host then pure ()
  else locking at_ label removalTask (ask (.detachInstance at_ host))

def setInstanceOption (option value : String) : Hook Unit := ask (.updateInstance .own option value)

def setInstanceConfig (username password : String) : Hook Unit :=
  ask (.setupInstanceConfig .own username password)

def reboot : Hook Unit := ask (.rebootCluster .own)

def rescan (at_ : Target) : Hook Unit := ask (.rescanCluster at_)

end ClusterClient

namespace ClusterSetClient

def create : Hook Unit := ask (.createClusterSet .own)

/-- The host of the primary in the status of the cluster-set. -/
def primaryOf (status : ClusterSetReport) : Except Exn (Option String) :=
  match status.clusters.lookup status.primaryCluster with
  | none => .error ⟨.lookupError,status.primaryCluster⟩
  | some cluster =>
    match cluster.primary with
    | none => .ok none
    | some address => .ok (if address = "" then none else some (addressHost address))

def fetchPrimaryHost (at_ : Target) : Hook (Option String) := do
  let status ← ask (.clusterSetStatus at_)
  ofExcept (primaryOf status)

end ClusterSetClient

/-- `Clients.find_cluster_primary`: the first address that answers decides. -/
def findClusterPrimary : List String → Hook (Option String)
  | [] => pure none
  | address :: rest =>
    (ClusterSetClient.fetchPrimaryHost (.host address)).tryElse Exn.isRuntimeError
      (fun _ => findClusterPrimary rest) pure

def configureInstance (username password : String) : Hook Unit := do
  ClusterClient.setInstanceConfig username password
  ask (.checkConnection .own)

def promoteInstance (host : String) (force : Bool) : Hook Unit := do
  let primary ← ClusterClient.fetchPrimaryHost .own
  if primary = some host then pure () else ClusterClient.promoteInstance .own host force

def recreateCluster (label : String) : Hook Unit := do
  ClusterClient.initLocksTable
  ClusterClient.create label
  ClusterSetClient.create
  ClusterClient.rescan .own

end MysqlOperators.Clients
