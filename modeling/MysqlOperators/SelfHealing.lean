import MysqlOperators.Helpers

/-!
The self-healing event: `SelfHealingManager` and `SelfHealingEventHandler`.
-/
namespace MysqlOperators.SelfHealing
open MysqlOperators.Program MysqlOperators.Program.Prog MysqlOperators.External MysqlOperators.Clients
open MysqlOperators.Workload MysqlOperators.Helpers

/-! ### The manager -/

def fetchClusterMembers : Hook Nat := InstanceClient.countClusterMembers [.online]

def fetchClusterState : Hook (Option ClusterStatus) := ClusterClient.fetchState

def fetchInstanceState : Hook (Option InstanceState) := InstanceClient.fetchState

/-- `SelfHealingManager.rejoin_instance`. -/
def rejoinThrough (label host : String) (addresses : List String) : Hook Unit := do
  match ← findClusterPrimary addresses with
  | none => pure ()
  | some primary =>
    ask .randomDelay
    let instances ← ClusterClient.fetchInstances (.host primary)
    if (instances.map Prod.fst).contains label then ClusterClient.rejoinInstance (.host primary) label host
    else pure ()

/-- Group replication quorum recovery must not run when a peer is UNREACHABLE. -/
def recoverClusterQuorum : Hook Unit := do
  if (← InstanceClient.countClusterMembers [.unreachable]) > 0 then pure ()
  else ClusterClient.reboot

def recreateCluster (label : String) : Hook Unit := do
  ClusterClient.dropMetadata
  Clients.recreateCluster label

def stopReplication : Hook Unit := InstanceClient.stopReplication

/-! ### The handler -/

def collectPeerStates : Hook (List String) := do
  match ← ask .peersRelation with
  | none => pure []
  | some peers => pure (peers.units.map (fun unit => PeerStateUnit.getInstanceState unit.2))

/-- The states that the peers published, whether or not the relation exists. -/
def peerStatesOf : Option PeersRelation → List String
  | none => []
  | some peers => peers.units.map (fun unit => PeerStateUnit.getInstanceState unit.2)

theorem collectPeerStates_eq :
    collectPeerStates = ask .peersRelation >>= fun peers => pure (peerStatesOf peers) := by
  refine congrArg (ask .peersRelation >>= ·) (funext fun peers => ?_)
  cases peers <;> rfl

def rejoinInstance (charm : Charm) : Hook Unit := do
  let addresses ← collectPeerAddresses charm
  if addresses.isEmpty then pure ()
  else do
    let host ← getUnitAddress charm charm.unit relationPeers
    rejoinThrough (getUnitLabel charm charm.unit) host addresses

def recoverFromOnlineLeader : Hook Unit := do
  let state ← fetchClusterState
  if state ≠ some .noQuorum then pure ()
  else
    (do stopReplication; recoverClusterQuorum : Hook Unit).tryElse Exn.isRuntimeError
      (fun _ => setUnitStatus (.blocked "Unable to recover cluster"))
      (fun _ => setBuiltStatuses)

def recoverFromOnlineFollower : Hook Unit := do
  let state ← fetchClusterState
  if state ≠ some .noQuorum then pure ()
  else do
    stopReplication
    setUnitStatus (← buildUnitStatus)

/-- The set of peer states is empty, `{OFFLINE}` or `{waiting}`. -/
def outageStates (peerStates : List String) : Bool :=
  peerStates.isEmpty || peerStates.all (· == InstanceState.offline.value) || peerStates.all (· == "waiting")

def recoverFromOfflineLeader (charm : Charm) : Hook Unit := do
  let peerStates ← collectPeerStates
  if peerStates.contains InstanceState.online.value then rejoinInstance charm
  else if outageStates peerStates then do
    if (← fetchClusterMembers) > 0 then pure ()
    else
      (do stopReplication; recoverClusterQuorum : Hook Unit).tryElse Exn.isRuntimeError
        (fun _ => recreateCluster (getUnitLabel charm charm.unit))
        (fun _ => setBuiltStatuses)
  else pure ()

def recoverFromOfflineFollower (charm : Charm) : Hook Unit := do
  let peerStates ← collectPeerStates
  if peerStates.contains InstanceState.online.value then rejoinInstance charm else pure ()

def onSelfHealing (charm : Charm) : Hook Unit := do
  if ← ServerService.running charm.substrate then
    if ← initialized charm then
      if ← ask .refreshing then pure ()
      else do
        let state ← fetchInstanceState
        let leader ← isLeader
        match state,leader with
        | some .online,true => recoverFromOnlineLeader
        | some .online,false => recoverFromOnlineFollower
        | some .offline,true => recoverFromOfflineLeader charm
        | some .offline,false => recoverFromOfflineFollower charm
        | _,_ => pure ()
        updateDatabaseEndpoints charm
    else pure ()
  else ServerService.start charm.substrate

end MysqlOperators.SelfHealing
