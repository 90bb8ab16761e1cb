import MysqlOperators.DatabaseUsers
import MysqlOperators.Lifecycle

/-!
The database relation: `DatabaseManager` and `DatabaseEventHandler`. The relation's
settings are written through the library of the relation, which ignores a unit that
is not the leader.
-/
namespace MysqlOperators.Databases
open MysqlOperators.Program MysqlOperators.Program.Prog MysqlOperators.External MysqlOperators.Clients
open MysqlOperators.Workload MysqlOperators.Helpers
open MysqlOperators.Lifecycle (rolenameRouter)
open MysqlOperators.DatabaseUsers (buildDatabaseRelationUsername)

/-! ### The instance client -/

namespace InstanceClient

def systemRolenameLen : Nat := 32
def systemDatabases : List String :=
  ["information_schema","mysql","mysql_innodb_cluster_metadata","performance_schema","sys"]

/-- `_build_database_dba_role`. -/
def buildDatabaseDbaRole (at_ : Target) (database : String) : Hook String := do
  let rolePrefix := "charmed_dba"
  let roleSuffix := "XX"
  let available := systemRolenameLen - rolePrefix.length - roleSuffix.length - 2
  let trimmed := String.ofList (database.toList.take available)
  let collisions ← ask (.searchRoles at_ (rolePrefix ++ "_" ++ trimmed ++ "_%"))
  let number := String.ofList (Python.zfill roleSuffix.length (toString collisions.length).toList)
  pure (rolePrefix ++ "_" ++ trimmed ++ "_" ++ number)

def createDatabase (at_ : Target) (database : String) : Hook Unit := do
  ask (.createDatabase at_ database)
  let rolename ← buildDatabaseDbaRole at_ database
  let _ ← ask (.executeSql at_ (.joined (.readerRoleUpdate database)
    (.joined (.writerRoleUpdate database) (.adminRole rolename database))))

def deleteUser (at_ : Target) (username : String) : Hook Unit := ask (.deleteUser at_ username "%")

def deleteUsersByAttrs (at_ : Target) (attributes : List (String × String)) : Hook Unit := do
  let users ← ask (.searchUsers at_ attributes)
  ask (.deleteUsers at_ users)

def fetchUserByAttrs (attributes : List (String × String)) : Hook (Option UserInfo) := do
  let users ← ask (.searchUsers .own attributes)
  pure users.head?

def fetchDatabases : Hook (List String) := do
  let databases ← ask (.searchDatabases .own)
  pure (databases.filter (fun database => !systemDatabases.contains database))

def fetchVersion : Hook String := do
  let version ← ask (.instanceVersion .own)
  pure ((nonEmpty version).getD "")

end InstanceClient

/-! ### The manager -/

namespace DatabaseManager

/-- The host of the primary of the cluster-set, which every change goes through. -/
def primaryHost : Hook String := do
  let primary ← ClusterSetClient.fetchPrimaryHost .own
  match nonEmpty primary with
  | none => raise ⟨.runtimeError,"Failed to fetch cluster-set primary: no quorum"⟩
  | some host => pure host

/-- The host that `primaryHost` finds in the status of the cluster-set. -/
def primaryIn (report : ClusterSetReport) : Except Exn String :=
  match ClusterSetClient.primaryOf report with
  | .error e => .error e
  | .ok primary =>
    match nonEmpty primary with
    | none => .error ⟨.runtimeError,"Failed to fetch cluster-set primary: no quorum"⟩
    | some host => .ok host

theorem primaryHost_eq : primaryHost = (do
    let report ← ask (.clusterSetStatus .own)
    ofExcept (primaryIn report) : Hook String) := by
  simp only [primaryHost,ClusterSetClient.fetchPrimaryHost,bind_assoc]
  congr
  funext report
  unfold primaryIn
  cases ClusterSetClient.primaryOf report with
  | error e => rfl
  | ok primary =>
    show (match nonEmpty primary with | none => _ | some host => _) = _
    dsimp only
    cases nonEmpty primary <;> rfl

def getRemovingFlag : Hook (Option Bool) := do
  let status ← ask (.unitData "unit-status")
  pure ((nonEmpty status).map (· == "removing"))

def setRemovingFlag : Hook Unit := ask (.setUnitData "unit-status" "removing")

def createDatabase (database : String) : Hook Unit := do
  let databases ← InstanceClient.fetchDatabases
  if databases.contains database then pure ()
  else do
    let host ← primaryHost
    InstanceClient.createDatabase (.host host) database

def createDatabaseUser (database username : String) (password : Option String) (roles : List String) : Hook String := do
  let password ← (match nonEmpty password with
    | some password => pure password
    | none => Clients.InstanceClient.createPassword : Hook String)
  let host ← primaryHost
  Clients.InstanceClient.createDatabaseUser (.host host) database username password roles
  pure password

def deleteUsers (username : String) : Hook Unit := do
  let host ← primaryHost
  InstanceClient.deleteUser (.host host) username
  InstanceClient.deleteUsersByAttrs (.host host) [("created_by_user",username)]

/-- `router_id.split("::")`, which has to have two parts. -/
def routerParts (identifier : String) : Except Exn (String × String) :=
  match identifier.splitOn "::" with
  | [name,mode] => .ok (name,mode)
  | [_] => .error ⟨.valueError,"not enough values to unpack (expected 2, got 1)"⟩
  | _ => .error ⟨.valueError,"too many values to unpack (expected 2)"⟩

def removeRouter (routerUser routerName : String) : Hook Unit := do
  let host ← primaryHost
  let found ← InstanceClient.fetchUserByAttrs [("created_by_juju_unit",routerName),("created_by_user",routerUser)]
  match found with
  | none => pure ()
  | some user =>
    InstanceClient.deleteUser (.host host) user.name
    match user.attributes.lookup "router_id" with
    | none => raise ⟨.lookupError,"router_id"⟩
    | some identifier =>
      let parts ← ofExcept (routerParts identifier)
      ask (.removeRouter (.host host) parts.1 parts.2)

end DatabaseManager

/-! ### The events -/

/-- No RuntimeError, which the handlers catch. -/
def sober {α : Type} : Except Exn α → Bool
  | .ok _ => true
  | .error e => !e.isRuntimeError

/-- What a client asks for in its databag. -/
structure Request where
  relation : Nat
  database : Option String
  extraUserRoles : Option String
deriving DecidableEq, Repr

/-- `extra_roles.split(",") if extra_roles else []`. -/
def Request.roles (request : Request) : List String :=
  match nonEmpty request.extraUserRoles with
  | none => []
  | some roles => (Python.split ',' roles.toList).map String.ofList

def relationUsername (relation : Nat) : Hook String := do
  let uuid ← ask .modelUuid
  pure (buildDatabaseRelationUsername uuid relation)

def setDatabase (relation : Nat) (database : String) : Hook Unit := do
  DatabaseManager.createDatabase database
  ask (.setDatabase relation database)

def setDatabaseUser (relation : Nat) (database : String) (extraRoles : List String) : Hook Unit := do
  let username ← relationUsername relation
  let password ← ask (.relationField relation "password")
  let password ← DatabaseManager.createDatabaseUser database username password extraRoles
  ask (.setCredentials relation username password)

def setDatabaseVersion (relation : Nat) : Hook Unit := do
  let version ← InstanceClient.fetchVersion
  ask (.setVersion relation version)

/-- What `_on_database_requested` tries. -/
def serve (request : Request) (database : String) : Hook Unit := do
  if request.roles.contains rolenameRouter then pure () else setDatabase request.relation database
  setDatabaseUser request.relation database request.roles
  setDatabaseVersion request.relation

def onDatabaseRequested (charm : Charm) (request : Request) : Hook Unit := do
  if ← initialized charm then
    if ← isLeader then
      match nonEmpty request.database with
      | none => pure ()
      | some database =>
        (serve request database).tryElse Exn.isRuntimeError
          (fun _ => setUnitStatus (.blocked "Failed to create database")) fun _ => do
            setUnitStatus (.active "")
            updateAppLabels charm
            updateRelationEndpoints charm request.relation
    else pure ()
  else ask .defer

def onRelationBroken (relation : Nat) : Hook Unit := do
  let removing ← DatabaseManager.getRemovingFlag
  if removing = some true then pure ()
  else if ← isLeader then
    let username ← relationUsername relation
    (DatabaseManager.deleteUsers username).tryExcept Exn.isRuntimeError (fun _ => pure ())
  else pure ()

def onRelationDeparted (charm : Charm) (relation : Nat) (departingUnit : String) : Hook Unit := do
  if departingUnit = unitName charm.appName charm.unit then DatabaseManager.setRemovingFlag else pure ()
  if ← isLeader then
    (DatabaseManager.removeRouter ("relation-" ++ toString relation) departingUnit).tryExcept Exn.isRuntimeError
      (fun _ => pure ())
  else pure ()

end MysqlOperators.Databases
