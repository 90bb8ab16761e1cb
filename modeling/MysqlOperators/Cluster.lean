import MysqlOperators.Helpers

/-!
The cluster events: `ClusterManager` and `ClusterEventHandler`, with the join of a
unit and the set-password action.
-/
namespace MysqlOperators.Cluster
open MysqlOperators.Program MysqlOperators.Program.Prog MysqlOperators.External MysqlOperators.Clients
open MysqlOperators.Workload MysqlOperators.Helpers

/-! ### The manager -/

namespace ClusterManager

def clusterMaxSize : Nat := 9
def passwordMaxLen : Nat := 130

def createSystemPassword : Hook String := InstanceClient.createPassword

def updateState : Hook Unit := do
  let role ← InstanceClient.fetchRole
  let state ← InstanceClient.fetchState
  setInstanceRole role
  setInstanceState (state.map InstanceState.value)

def checkInstanceJoinCluster (clusterName instanceLabel : String) : Hook Bool := do
  let published ← ask (.unitData "member-state")
  if (nonEmpty published).getD "UNKNOWN" ≠ "waiting" then pure false
  else do
    let labels ← InstanceClient.fetchClusterLabels
    if labels.contains clusterName = false then pure true
    else do
      let instances ← ClusterClient.fetchInstances .own
      let status := (instances.lookup instanceLabel).map InstanceInfo.status
      if instances.length = clusterMaxSize then pure false
      else if status = some .online ∨ status = some .recovering then pure false
      else pure true

def joinInstance (instanceLabel instanceHost : String) (addresses : List String) : Hook Unit := do
  match ← findClusterPrimary addresses with
  | none => pure ()
  | some primary =>
    ask .randomDelay
    let instances ← ClusterClient.fetchInstances (.host primary)
    if (instances.map Prod.fst).contains instanceLabel then do
      ClusterClient.removeInstance (.host primary) instanceLabel instanceHost
      ClusterClient.rescan (.host primary)
    else pure ()
    ClusterClient.addInstance (.host primary) instanceLabel instanceHost
    updateState

def updateClusterUser (username password : String) : Hook Unit := do
  match ← ClusterSetClient.fetchPrimaryHost .own with
  | none => pure ()
  | some host =>
    if host = "" then pure ()
    else if password.length > passwordMaxLen then raise ⟨.valueError,"Password is too long"⟩
    else InstanceClient.updateUser (.host host) username password

def promoteInstance (instanceHost : String) (force : Bool) : Hook Unit := Clients.promoteInstance instanceHost force

end ClusterManager

/-! ### The handler -/

def onRelationChanged (charm : Charm) : Hook Unit := do
  updateDatabaseEndpoints charm
  match ← ask .peersRelation with
  | none => ask .defer
  | some _ =>
    let addresses ← collectPeerAddresses charm
    if addresses.isEmpty then ask .defer
    else do
      let name ← clusterName
      let label := getUnitLabel charm charm.unit
      let host ← getUnitAddress charm charm.unit relationPeers
      if ← ClusterManager.checkInstanceJoinCluster name label then do
        ClusterManager.joinInstance label host addresses
        setUnitStatus (← buildUnitStatus)
      else pure ()

def updatePassword (charm : Charm) (key value : String) : Hook Unit := do
  let content ← SecretStore.getContent (secretLabel charm)
  SecretStore.setContent (secretLabel charm) (updated content key value)

def onSetPassword (charm : Charm) (username password : String) : Hook Unit :=
  match usernameToPasswordKey.lookup username with
  | none => ask (.fail ("The action cannot be run for user " ++ username))
  | some key => do
    if ← isLeader then do
      let password ← if password = "" then ClusterManager.createSystemPassword else pure password
      (do ClusterManager.updateClusterUser username password
          updatePassword charm key password : Hook Unit).tryElse (fun e => e.isRuntimeError || e.isValueError)
        (fun e => ask (.fail ("Failed to update password for user " ++ username ++ ": " ++ e.text)))
        fun _ => do
          if username = usernameMonitor then do
            ExporterService.setup charm.substrate username password
            ExporterService.stop charm.substrate
            ExporterService.start charm.substrate
          else pure ()
    else ask (.fail "The action can only be run on the leader unit")

def promoteInstance (charm : Charm) (force : Bool) : Hook Unit :=
  (do let host ← getUnitAddress charm charm.unit relationPeers
      ClusterManager.promoteInstance host force : Hook Unit).tryElse Exn.isRuntimeError
    (fun e => ask (.fail ("Failed to promote instance: " ++ e.text)))
    (fun _ => ask (.setResults "message" "Instance is now primary"))

/-- The unit scope of `_on_promote_primary`. -/
def onPromoteUnit (charm : Charm) (force : Bool) : Hook Unit := do
  promoteInstance charm force
  ClusterManager.updateState

end MysqlOperators.Cluster
