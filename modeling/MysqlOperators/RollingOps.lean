import MysqlOperators.Helpers

/-!
Rolling operations: `RollingManager` and `RollingHelper`, with the callback that
restarts an instance. `RollingOpsManager` calls it on the unit that holds the lock.
-/
namespace MysqlOperators.RollingOps
open MysqlOperators.Program MysqlOperators.Program.Prog MysqlOperators.External MysqlOperators.Clients
open MysqlOperators.Workload MysqlOperators.Helpers

/-- The results of a callback that the charm uses: done, or the lock is given back
    and the operation stays in the queue. -/
inductive OperationResult where
  | release
  | retryRelease
deriving DecidableEq, Repr

/-- `MySQLInstanceClient.wait_recovering`. The loop has no bound of its own: it asks
    again while the instance is RECOVERING, until the hook is ended from outside. -/
def waitRecovering : Nat → Hook Unit
  | 0 => raise ⟨.systemExit,"The hook was ended"⟩
  | polls+1 => InstanceClient.fetchState.tryElse Exn.isExecutionError (fun _ => pure ()) fun state =>
      if state = some .recovering then waitRecovering polls else pure ()

namespace RollingManager

def isClusterPrimary : Hook Bool := do
  let role ← InstanceClient.fetchRole
  pure (role == some .primary)

def recoverCluster : Hook Unit := ClusterClient.reboot

/-- One of the thirty attempts of `recover_instance`. -/
def checkJoined (label : String) : Hook Unit := do
  let _ ← InstanceClient.fetchClusterLabels
  let instances ← ClusterClient.fetchInstances .own
  if (instances.map Prod.fst).contains label then pure ()
  else raise ⟨.runtimeError,"Instance did not join back the cluster"⟩

def recoverInstance (polls : Nat) (label : String) : Hook Unit := do
  waitRecovering polls
  retry 29 Exn.isException (checkJoined label)

end RollingManager

namespace RollingHelper

def instanceCallback : String := "restart"

/-- `_check_instance_waiting_ops` over the units of the relation. -/
def checkInstanceWaitingOps : List UnitId → Hook Bool
  | [] => pure false
  | unit :: rest => do
    if ← ask (.isWaiting instanceCallback unit) then pure true else checkInstanceWaitingOps rest

def recoverInstance (charm : Charm) (polls : Nat) : Hook Unit := do
  let planned ← ask .plannedUnits
  if planned = 1 then RollingManager.recoverCluster
  else RollingManager.recoverInstance polls (getUnitLabel charm charm.unit)

def restart (s : Substrate) : Hook Unit := do
  ServerService.stop s
  ServerService.start s

/-- `is_cluster_primary and _check_instance_waiting_ops(relation)`. -/
def mustWait (units : List UnitId) : Hook Bool := do
  if ← RollingManager.isClusterPrimary then checkInstanceWaitingOps units else pure false

def restartInstance (charm : Charm) (polls : Nat) : Hook OperationResult := do
  if ← ServerService.running charm.substrate then
    match ← ask .peersRelation with
    | none => pure .retryRelease
    | some peers =>
      if ← mustWait (peers.units.map Prod.fst) then pure .retryRelease
      else do
        restart charm.substrate
        recoverInstance charm polls
        pure .release
  else pure .retryRelease

end RollingHelper

end MysqlOperators.RollingOps
