import MysqlOperators.Program
import MysqlOperators.Python

/-!
What the handlers of the charm leave to others: Juju (`ops`), MySQL Shell
(`mysql_shell`), the shell of the workload, the object storage. Each use of them
is a call with its documented answer, and a hook is a program over these calls.
Only data that some modelled handler reads or writes appears here.
-/
namespace MysqlOperators.External
open MysqlOperators.Program
open MysqlOperators.Python (Moment)

/-! ### Exceptions -/

/-- The classes of exceptions that some `except` clause tells apart. A class
    stands for itself and those of its subclasses that are not listed. -/
inductive ExnClass where
  | executionError
  | runtimeError
  | valueError
  | fileNotFoundError
  | lookupError
  | attributeError
  | osError
  | clientError
  | modelError
  | secretNotFoundError
  | changeError
  | pebbleError
  | snapError
  | precheckFailed
  | otherException
  | systemExit
deriving DecidableEq, Repr

structure Exn where
  cls : ExnClass
  text : String
deriving DecidableEq, Repr

namespace Exn

def isExecutionError (e : Exn) : Bool := e.cls == .executionError
/-- `mysql_shell` derives `ExecutionError` from `RuntimeError`. -/
def isRuntimeError (e : Exn) : Bool := e.cls == .executionError || e.cls == .runtimeError
def isValueError (e : Exn) : Bool := e.cls == .valueError
/-- Python derives `FileNotFoundError` from `OSError`. -/
def isOSError (e : Exn) : Bool := e.cls == .osError || e.cls == .fileNotFoundError
def isFileNotFound (e : Exn) : Bool := e.cls == .fileNotFoundError
def isSecretNotFound (e : Exn) : Bool := e.cls == .secretNotFoundError
/-- `ops` derives `SecretNotFoundError` from `ModelError`. -/
def isModelError (e : Exn) : Bool := e.cls == .modelError || e.cls == .secretNotFoundError
/-- `ops.pebble` derives `ChangeError` from `Error`. -/
def isPebbleError (e : Exn) : Bool := e.cls == .pebbleError || e.cls == .changeError
/-- Everything but the exceptions that derive from `BaseException` alone. -/
def isException (e : Exn) : Bool := e.cls != .systemExit

end Exn

/-! ### Juju -/

/-- The number of a unit in its application. -/
abbrev UnitId := Nat

/-- The settings that one unit or application keeps in a relation. -/
abbrev Databag := List (String × String)

/-- The peer relation as one unit sees it: the settings of the other units that
    joined it and those of the unit itself. The set of all of them is gone through in
    an order in which the unit itself has any `place`. -/
structure PeersRelation where
  units : List (UnitId × Databag)
  own : Databag
  place : Nat
deriving DecidableEq, Repr, Inhabited

namespace PeersRelation

def everyone (peers : PeersRelation) (self : UnitId) : List UnitId :=
  (peers.units.map Prod.fst).insertIdx (min peers.place peers.units.length) self

theorem mem_everyone {peers : PeersRelation} {self unit : UnitId} :
    unit ∈ peers.everyone self ↔ unit = self ∨ unit ∈ peers.units.map Prod.fst :=
  List.mem_insertIdx (by simpa using Nat.min_le_right _ _)

end PeersRelation

inductive Status where
  | active (message : String)
  | blocked (message : String)
  | waiting (message : String)
  | maintenance (message : String)
deriving DecidableEq, Repr

inductive Substrate where
  | vm
  | k8s
deriving DecidableEq, Repr

/-! ### MySQL Shell -/

inductive InstanceState where
  | online
  | recovering
  | offline
  | error
  | unreachable
  | missing
deriving DecidableEq, Repr, Inhabited

/-- The text of a state, as it is stored in a databag. -/
def InstanceState.value : InstanceState → String
  | online => "ONLINE"
  | recovering => "RECOVERING"
  | offline => "OFFLINE"
  | error => "ERROR"
  | unreachable => "UNREACHABLE"
  | missing => "(MISSING)"

inductive InstanceRole where
  | primary
  | secondary
deriving DecidableEq, Repr

def InstanceRole.value : InstanceRole → String
  | primary => "PRIMARY"
  | secondary => "SECONDARY"

inductive ClusterStatus where
  | ok
  | okPartial
  | okNoTolerance
  | okNoTolerancePartial
  | noQuorum
  | offline
  | error
  | unreachable
  | unknown
deriving DecidableEq, Repr, Inhabited

def ClusterStatus.value : ClusterStatus → String
  | ok => "OK"
  | okPartial => "OK_PARTIAL"
  | okNoTolerance => "OK_NO_TOLERANCE"
  | okNoTolerancePartial => "OK_NO_TOLERANCE_PARTIAL"
  | noQuorum => "NO_QUORUM"
  | offline => "OFFLINE"
  | error => "ERROR"
  | unreachable => "UNREACHABLE"
  | unknown => "UNKNOWN"

inductive ClusterRole where
  | primary
  | replica
deriving DecidableEq, Repr, Inhabited

/-- One instance in the topology of `cluster.status()`. The keys that MySQL Shell
    leaves out at times are optional. -/
structure InstanceInfo where
  status : InstanceState
  mode : String
  instanceErrors : Option (List String)
  hiddenFromRouter : Option Bool
deriving DecidableEq, Repr

/-- The part of `cluster.status()` that the charm reads. -/
structure ClusterReport where
  clusterRole : ClusterRole
  status : ClusterStatus
  primary : Option String
  topology : List (String × InstanceInfo)
deriving DecidableEq, Repr, Inhabited

structure ClusterSetEntry where
  globalStatus : String
  primary : Option String
deriving DecidableEq, Repr, Inhabited

/-- The part of `clusterset.status()` that the charm reads. -/
structure ClusterSetReport where
  primaryCluster : String
  clusters : List (String × ClusterSetEntry)
deriving DecidableEq, Repr, Inhabited

/-- A user of the server with its attributes. -/
structure UserInfo where
  name : String
  host : String
  attributes : List (String × String)
deriving DecidableEq, Repr

/-- What tells a user from the others. -/
def UserInfo.account (user : UserInfo) : String × String := (user.name,user.host)

/-- The server that a client is connected to: the one of the unit itself, or the
    one of a given host (`build_cluster_client` and its siblings). -/
inductive Target where
  | own
  | host (name : String)
deriving DecidableEq, Repr

/-- The SQL that a client executes. Where the text is built by a query builder of
    `mysql_shell`, the query is named by the builder's method. -/
inductive Query where
  | script (text : String)
  | instanceAuthRoles
  | lockTableCreation
  | lockAcquire (task label : String)
  | lockRelease (task label : String)
  | readerRoleUpdate (database : String)
  | writerRoleUpdate (database : String)
  | adminRole (role database : String)
  /-- Queries joined by a semicolon. -/
  | joined (first rest : Query)
deriving DecidableEq, Repr

/-! ### The workload -/

/-- The commands that the services of the workload run in its shell. -/
inductive Command where
  | findDataFiles (directory : String)
  | changeOwner (owner path : String)
  | deleteContents (path : String)
  | initializeServer (arguments : List String)
  | removeMatching (directory pattern : String)
  | removeOthers (directory pattern : String)
  | execute (arguments : List String)
deriving DecidableEq, Repr

/-! ### Calls -/

/-- A use of something outside the charm's code. -/
inductive Call where
  -- Juju
  | isLeader
  | refreshing
  | peersRelation
  | unitData (key : String)
  | setUnitData (key value : String)
  | deleteUnitData (key : String)
  | appData (key : String)
  | setAppData (key value : String)
  | deleteAppData (key : String)
  | relation (name : String)
  | databaseRelations
  | setEndpoints (relation : Nat) (addresses : String)
  | setReadOnlyEndpoints (relation : Nat) (addresses : String)
  | setUnitStatus (status : Status)
  | setAppStatus (status : Status)
  | setPorts (port : Nat)
  | getSecret (label : String)
  | peekContent (label : String)
  | setContent (label : String) (content : List (String × String))
  | addSecret (label : String) (content : List (String × String))
  | fail (message : String)
  | setResults (key value : String)
  | defer
  | configValue (name : String)
  | modelName
  | jujuVersion
  | modelUuid
  | plannedUnits
  | relationField (relation : Nat) (key : String)
  | setDatabase (relation : Nat) (database : String)
  | setCredentials (relation : Nat) (username password : String)
  | setVersion (relation : Nat) (version : String)
  | isWaiting (callback : String) (unit : UnitId)
  | requestLock (callback : String)
  | emitRefresh (tlsType : String)
  | assignedCertificates (relation : String)
  | bindAddress (relation : String)
  | setAddressHostname (address : String) (names : List String)
  | peerHostnames
  -- MySQL Shell
  | instanceState (at_ : Target)
  | instanceRole (at_ : Target)
  | searchMembers (at_ : Target) (states : List InstanceState)
  | clusterLabels (at_ : Target)
  | stopReplication (at_ : Target)
  | createUser (at_ : Target) (username password : String) (roles : List String)
  | updateUser (at_ : Target) (username password : String)
  | deleteUser (at_ : Target) (username hostname : String)
  | executeSql (at_ : Target) (query : Query)
  | dropMetadata (at_ : Target)
  | searchComponents (at_ : Target)
  | installComponent (at_ : Target) (urn : String)
  | setVariable (at_ : Target) (name value : String)
  | persistVariable (at_ : Target) (name value : String)
  | reloadCertificates (at_ : Target)
  | searchProcesses (at_ : Target)
  | stopProcesses (at_ : Target) (processes : List String)
  | setupInstanceConfig (at_ : Target) (username password : String)
  | checkConnection (at_ : Target)
  | clusterStatus (at_ : Target)
  | clusterSetStatus (at_ : Target)
  | createCluster (at_ : Target)
  | updateInstance (at_ : Target) (option value : String)
  | createClusterSet (at_ : Target)
  | rebootCluster (at_ : Target)
  | rescanCluster (at_ : Target)
  | attachInstance (at_ : Target) (label host method : String)
  | rejoinInstance (at_ : Target) (host : String)
  | detachInstance (at_ : Target) (host : String)
  | promoteInstance (at_ : Target) (host : String)
  | forceQuorum (at_ : Target) (host : String)
  | searchDatabases (at_ : Target)
  | searchRoles (at_ : Target) (pattern : String)
  | createDatabase (at_ : Target) (database : String)
  | instanceVersion (at_ : Target)
  | searchUsers (at_ : Target) (attributes : List (String × String))
  | deleteUsers (at_ : Target) (users : List UserInfo)
  | removeRouter (at_ : Target) (name mode : String)
  -- workload
  | snapPresent
  | snapServiceActive
  | snapStart (service : String)
  | snapStop (service : String)
  | snapSet (username password : String)
  | canConnect
  | serviceRunning (service : String)
  | addLayer (service : String)
  | containerStart (service : String)
  | containerStop (service : String)
  | waitForConnection (port : Nat)
  | hostname (address : String)
  | checkService (host : String) (port : Nat)
  | createService (name : String)
  | updateLabels (name role : String)
  | executeSync (command : Command)
  | startProcess (command : List String) (environ : List (String × String)) (stdin : Option Nat)
  | waitProcess (process : Nat)
  | readOutput (process : Nat)
  | closeOutput (process : Nat)
  | readJson (path : String)
  | writeJson (path : String) (content : List (String × String))
  | writeText (path text : String)
  | unlink (path : String)
  | makeDirectory (path : String)
  | saveServerConfig
  | readServerConfig
  | writeServerConfig (content : List (String × String))
  | cores
  | memory
  | randomSuffix
  | randomPassword
  | randomDelay
  | requestTime
  | createTemporary (contents : String)
  | localHostname
  | removeHosts
  | updateHosts (address : String) (names : List String)
  | fullHostname
  | processExists (pid : Nat)
  | startDispatcher (service : String)
  -- object storage
  | buildBackupClient (caChain : Option String)
  | uploadFile (bucket : String) (file : Option String) (key : String)
  | listObjects (bucket path : String)
  | getObject (bucket key : String)
deriving DecidableEq, Repr

/-- What each call answers when it does not raise. -/
@[reducible] def Reply : Call → Type
  | .isLeader | .refreshing | .relation _ => Bool
  | .peersRelation => Option PeersRelation
  | .isWaiting _ _ | .processExists _ => Bool
  | .unitData _ | .appData _ | .configValue _ | .relationField _ _ | .instanceVersion _ => Option String
  | .databaseRelations => List (Nat × Bool)
  | .peerHostnames => List (String × List String)
  | .peekContent _ | .readJson _ | .readServerConfig => List (String × String)
  | .modelName | .jujuVersion | .modelUuid | .bindAddress _ | .localHostname | .fullHostname => String
  | .instanceState _ => Option InstanceState
  | .instanceRole _ => Option InstanceRole
  | .searchMembers _ _ | .clusterLabels _ | .searchComponents _ => List String
  | .executeSql _ _ | .searchDatabases _ | .searchRoles _ _ => List String
  | .searchProcesses _ => List String
  | .searchUsers _ _ => List UserInfo
  -- the CA and the certificate that come first, and the private key
  | .assignedCertificates _ => Option (String × String) × Option String
  | .clusterStatus _ => ClusterReport
  | .clusterSetStatus _ => ClusterSetReport
  | .snapPresent | .snapServiceActive | .canConnect => Bool
  | .serviceRunning _ => Option Bool
  | .hostname _ | .executeSync _ => String
  | .startProcess _ _ _ | .startDispatcher _ => Nat
  | .waitProcess _ => Int
  | .readOutput _ => Option String
  | .cores | .memory | .plannedUnits => Nat
  | .randomSuffix | .randomPassword | .createTemporary _ => String
  | .requestTime => Moment
  | .listObjects _ _ => List (Option (List String))
  | _ => Unit

instance (c : Call) : Inhabited (Reply c) := by cases c <;> infer_instance

/-- A handler, or a function that one calls, as a program over the calls. -/
abbrev Hook := Prog Call Reply Exn

/-- The program that makes one call. -/
@[reducible] def ask (c : Call) : Hook (Reply c) := Prog.perform c

/-- The attributes of the charm object that its handlers read: the unit it runs
    on, and the names its clients were built with. -/
structure Charm where
  substrate : Substrate
  appName : String
  unit : UnitId
  /-- `MySQLClusterClient._cluster`, read from the databag when the charm starts. -/
  clusterName : String
  /-- The host of the unit's own executor. -/
  host : String
deriving DecidableEq, Repr

end MysqlOperators.External
