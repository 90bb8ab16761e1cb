import MysqlOperators.SelfHealing
import MysqlOperators.RollingOps

/-!
The functions of the charm that only look and report. They can be skipped where a
theorem is about what a handler changes: their programs avoid every call outside
`quiet`, for every answer that they may get. Those that theorems about other calls
need too come first, for any calls that are to be avoided.
-/
namespace MysqlOperators.Quiet
open MysqlOperators.Program MysqlOperators.Program.Prog MysqlOperators.External MysqlOperators.Clients
open MysqlOperators.Workload MysqlOperators.Helpers MysqlOperators.SelfHealing MysqlOperators.RollingOps

/-- Calls that read something, draw a random value, or report a status, an
    endpoint or a label. -/
def quiet : Call → Bool
  | .isLeader | .refreshing | .peersRelation | .unitData _ | .appData _ | .relation _ | .databaseRelations
  | .setEndpoints _ _ | .setReadOnlyEndpoints _ _ | .setUnitStatus _ | .setAppStatus _
  | .configValue _ | .modelName | .jujuVersion
  | .instanceState _ | .instanceRole _ | .searchMembers _ _ | .clusterLabels _ | .searchComponents _
  | .checkConnection _ | .clusterStatus _ | .clusterSetStatus _
  | .snapPresent | .snapServiceActive | .canConnect | .serviceRunning _ | .waitForConnection _ | .hostname _
  | .checkService _ _ | .updateLabels _ _ | .readJson _ | .cores
  | .randomSuffix | .randomPassword | .randomDelay | .requestTime | .listObjects _ _ => true
  | _ => false

def Loud (c : Call) : Prop := quiet c = false

/-! ### Calls of the server and the charm -/

section
variable {bad : Call → Prop}

theorem avoids_ask {c : Call} (other : ¬ bad c) : Avoids bad (ask c) := (avoids_perform c).mpr other

/-- Calls that ask whether the server runs. -/
def probes : Call → Bool
  | .snapPresent | .snapServiceActive | .canConnect | .serviceRunning _ => true
  | _ => false

def startsServer : Call → Bool
  | .snapPresent | .snapStart _ | .addLayer _ | .containerStart _ | .waitForConnection _ => true
  | _ => false

def stopsServer : Call → Bool
  | .snapPresent | .snapStop _ | .addLayer _ | .containerStop _ => true
  | _ => false

theorem avoids_running (free : ∀ c, probes c = true → ¬ bad c) (s : Substrate) :
    Avoids bad (ServerService.running s) := by
  cases s with
  | vm =>
    refine avoids_bind (avoids_ask (free _ rfl)) fun _ => avoids_ite _ (fun _ => ?_) (fun _ => trivial)
    exact avoids_ask (free _ rfl)
  | k8s =>
    refine avoids_bind (avoids_ask (free _ rfl)) fun _ => avoids_ite _ (fun _ => ?_) (fun _ => trivial)
    refine avoids_bind (avoids_ask (free _ rfl)) fun found => ?_
    cases found <;> trivial

theorem avoids_start (free : ∀ c, startsServer c = true → ¬ bad c) (s : Substrate) :
    Avoids bad (ServerService.start s) := by
  cases s with
  | vm =>
    refine avoids_bind (avoids_ask (free _ rfl)) fun _ => avoids_ite _ (fun _ => ?_) (fun _ => trivial)
    exact avoids_bind (avoids_ask (free _ rfl)) fun _ => avoids_ask (free _ rfl)
  | k8s =>
    exact avoids_bind (avoids_ask (free _ rfl)) fun _ => avoids_bind (avoids_ask (free _ rfl)) fun _ =>
      avoids_ask (free _ rfl)

theorem avoids_stop (free : ∀ c, stopsServer c = true → ¬ bad c) (s : Substrate) :
    Avoids bad (ServerService.stop s) := by
  cases s with
  | vm =>
    refine avoids_bind (avoids_ask (free _ rfl)) fun _ => avoids_ite _ (fun _ => ?_) (fun _ => trivial)
    exact avoids_ask (free _ rfl)
  | k8s => exact avoids_bind (avoids_ask (free _ rfl)) fun _ => avoids_ask (free _ rfl)

theorem avoids_waitRecovering (state : ¬ bad (.instanceState .own)) : ∀ polls, Avoids bad (waitRecovering polls)
  | 0 => trivial
  | polls+1 => avoids_tryElse (avoids_ask state) (fun _ => trivial) fun _ =>
      avoids_ite _ (fun _ => avoids_waitRecovering state polls) (fun _ => trivial)

theorem avoids_initialized (free : ∀ c, probes c = true → ¬ bad c) (labels : ¬ bad (.clusterLabels .own))
    (name : ¬ bad (.appData "cluster-name")) (charm : Charm) : Avoids bad (initialized charm) := by
  refine avoids_bind (avoids_running free _) fun _ => avoids_ite _ (fun _ => ?_) (fun _ => trivial)
  refine avoids_tryElse (avoids_tryExcept (avoids_ask labels) fun _ => trivial) (fun _ => trivial) fun _ => ?_
  exact avoids_bind (avoids_bind (avoids_ask name) fun _ => trivial) fun _ => trivial

theorem avoids_getUnitAddress (peers : ¬ bad .peersRelation) (hostname : ∀ unit, ¬ bad (.hostname unit))
    (charm : Charm) (unit : UnitId) (relation : String) : Avoids bad (getUnitAddress charm unit relation) := by
  unfold getUnitAddress
  split
  · refine avoids_bind (avoids_ask peers) fun found => ?_
    split
    · trivial
    · refine avoids_ite _ (fun _ => trivial) fun _ => ?_
      split <;> trivial
  · exact avoids_bind (avoids_ask (hostname _)) fun _ => avoids_ite _ (fun _ => trivial) (fun _ => trivial)

theorem avoids_findClusterPrimary (status : ∀ at_, ¬ bad (.clusterSetStatus at_)) :
    ∀ addresses, Avoids bad (findClusterPrimary addresses)
  | [] => trivial
  | _ :: rest =>
    avoids_tryElse (avoids_bind (avoids_ask (status _)) fun _ => avoids_ofExcept _)
      (fun _ => avoids_findClusterPrimary status rest) (fun _ => trivial)

end

theorem not_loud {c : Call} (h : quiet c = true) : ¬ Loud c := by simp [Loud,h]

theorem quiet_ask {c : Call} (h : quiet c = true) : Avoids Loud (ask c) := avoids_ask (not_loud h)

theorem quiet_of_probes (c : Call) (asks : probes c = true) : ¬ Loud c := by
  unfold probes at asks
  split at asks <;> first | contradiction | exact not_loud rfl

/-! ### Clients -/

theorem quiet_fetchClusterLabels : Avoids Loud InstanceClient.fetchClusterLabels :=
  avoids_tryExcept (quiet_ask rfl) (fun _ => trivial)

theorem quiet_countClusterMembers (states : List InstanceState) :
    Avoids Loud (InstanceClient.countClusterMembers states) :=
  avoids_tryElse (quiet_ask rfl) (fun _ => trivial) (fun _ => trivial)

theorem quiet_fetchInstances (at_ : Target) : Avoids Loud (ClusterClient.fetchInstances at_) :=
  avoids_tryElse (quiet_ask rfl) (fun _ => trivial) (fun _ => trivial)

theorem quiet_fetchRole : Avoids Loud ClusterClient.fetchRole :=
  avoids_tryElse (quiet_ask rfl) (fun _ => trivial) (fun _ => trivial)

theorem quiet_fetchState : Avoids Loud ClusterClient.fetchState :=
  avoids_tryElse (quiet_ask rfl) (fun _ => trivial) (fun _ => trivial)

theorem quiet_clusterPrimary (at_ : Target) : Avoids Loud (ClusterClient.fetchPrimaryHost at_) := by
  refine avoids_tryElse (quiet_ask rfl) (fun _ => trivial) fun status => avoids_ite _ (fun _ => trivial) fun _ => ?_
  split <;> trivial

theorem quiet_findClusterPrimary : ∀ addresses, Avoids Loud (findClusterPrimary addresses) :=
  avoids_findClusterPrimary fun _ => not_loud rfl

/-! ### Services and charm -/

theorem quiet_running (s : Substrate) : Avoids Loud (ServerService.running s) := avoids_running quiet_of_probes s

theorem quiet_systemReady (s : Substrate) : Avoids Loud (systemReady s) := by
  cases s with
  | vm => trivial
  | k8s => exact quiet_ask rfl

theorem quiet_setAppStatus (status : Status) : Avoids Loud (setAppStatus status) :=
  avoids_bind (quiet_ask rfl) fun _ => avoids_ite _
    (fun _ => avoids_bind (quiet_ask rfl) fun _ => avoids_ite _ (fun _ => trivial) (fun _ => quiet_ask rfl))
    (fun _ => trivial)

theorem quiet_setUnitStatus (status : Status) : Avoids Loud (setUnitStatus status) :=
  avoids_bind (quiet_ask rfl) fun _ => avoids_ite _ (fun _ => trivial) (fun _ => quiet_ask rfl)

theorem quiet_clusterName : Avoids Loud clusterName := avoids_bind (quiet_ask rfl) (fun _ => trivial)

theorem quiet_initialized (charm : Charm) : Avoids Loud (initialized charm) :=
  avoids_initialized quiet_of_probes (not_loud rfl) (not_loud rfl) charm

theorem quiet_getUnitAddress (charm : Charm) (unit : UnitId) (relation : String) :
    Avoids Loud (getUnitAddress charm unit relation) :=
  avoids_getUnitAddress (not_loud rfl) (fun _ => not_loud rfl) charm unit relation

theorem quiet_charmUnits (charm : Charm) : Avoids Loud (charmUnits charm) := by
  refine avoids_bind (quiet_ask rfl) fun peers => ?_
  split <;> trivial

/-! ### Event helpers -/

theorem quiet_collectEndpoints (charm : Charm) (units : List UnitId) (relation : String) (e : Endpoints)
    (topology : List (String × InstanceInfo)) : Avoids Loud (collectEndpoints charm units relation e topology) := by
  induction topology generalizing e with
  | nil => trivial
  | cons entry rest ih =>
    refine avoids_ite _ (fun _ => ih e) fun _ => ?_
    split
    · exact ih e
    · exact avoids_bind (quiet_getUnitAddress _ _ _) fun _ => avoids_ite _ (fun _ => ih e) (fun _ => ih _)

theorem quiet_buildClusterEndpoints (charm : Charm) (relation : String) :
    Avoids Loud (buildClusterEndpoints charm relation) :=
  avoids_bind (quiet_fetchInstances _) fun _ => avoids_bind (quiet_charmUnits _) fun _ =>
    avoids_bind (quiet_collectEndpoints _ _ _ _ _) (fun _ => trivial)

theorem quiet_buildAppStatus : Avoids Loud buildAppStatus := by
  refine avoids_bind (quiet_fetchInstances _) fun _ => avoids_bind quiet_fetchState fun state => ?_
  split <;> trivial

theorem quiet_buildUnitStatus : Avoids Loud buildUnitStatus := by
  refine avoids_bind (quiet_ask rfl) fun _ => avoids_bind (quiet_ask rfl) fun _ => ?_
  refine avoids_ite _ (fun _ => trivial) fun _ => avoids_ite _ (fun _ => trivial) fun _ => ?_
  refine avoids_bind quiet_fetchRole fun _ => avoids_bind quiet_fetchState fun _ => ?_
  split <;> trivial

theorem quiet_setBuiltStatuses : Avoids Loud setBuiltStatuses :=
  avoids_bind quiet_buildUnitStatus fun _ => avoids_bind (quiet_setUnitStatus _) fun _ =>
    avoids_bind quiet_buildAppStatus fun _ => quiet_setAppStatus _

theorem quiet_updateAppLabels (charm : Charm) : Avoids Loud (updateAppLabels charm) := by
  unfold updateAppLabels
  split
  · trivial
  · exact avoids_bind (quiet_buildClusterEndpoints _ _) fun _ =>
      avoids_bind (avoids_forM (fun _ => quiet_ask rfl) _) fun _ =>
        avoids_bind (avoids_forM (fun _ => quiet_ask rfl) _) fun _ => avoids_forM (fun _ => quiet_ask rfl) _

theorem quiet_updateRelationEndpoints (charm : Charm) (relation : Nat) :
    Avoids Loud (updateRelationEndpoints charm relation) := by
  refine avoids_bind ?_ fun _ => avoids_bind (quiet_ask rfl) fun _ => quiet_ask rfl
  unfold buildDatabaseEndpoints
  split
  · exact avoids_bind (quiet_buildClusterEndpoints _ _) (fun _ => trivial)
  · exact avoids_bind (quiet_ask rfl) fun _ => avoids_bind (quiet_ask rfl) fun _ =>
      avoids_bind (quiet_ask rfl) (fun _ => trivial)

theorem quiet_updateDatabaseEndpoints (charm : Charm) : Avoids Loud (updateDatabaseEndpoints charm) := by
  refine avoids_bind (quiet_initialized _) fun _ => avoids_ite _ (fun _ => ?_) (fun _ => trivial)
  refine avoids_bind (quiet_ask rfl) fun _ => avoids_ite _ (fun _ => ?_) (fun _ => trivial)
  refine avoids_bind (quiet_ask rfl) fun _ => avoids_ite _ (fun _ => trivial) fun _ => ?_
  refine avoids_bind (quiet_ask rfl) fun _ => avoids_ite _ (fun _ => trivial) fun _ => ?_
  refine avoids_bind (quiet_updateAppLabels _) fun _ => avoids_forM (fun relation => ?_) _
  exact avoids_ite _ (fun _ => quiet_updateRelationEndpoints _ _) (fun _ => trivial)

/-! ### The peers -/

theorem quiet_collectPeerStates : Avoids Loud collectPeerStates := by
  refine avoids_bind (quiet_ask rfl) fun peers => ?_
  split <;> trivial

theorem quiet_addressesOf (charm : Charm) : ∀ units, Avoids Loud (addressesOf charm units)
  | [] => trivial
  | _ :: rest => avoids_bind (quiet_getUnitAddress _ _ _) fun _ =>
      avoids_bind (quiet_addressesOf charm rest) (fun _ => trivial)

theorem quiet_collectPeerAddresses (charm : Charm) : Avoids Loud (collectPeerAddresses charm) := by
  refine avoids_bind (quiet_ask rfl) fun peers => ?_
  split
  · trivial
  · exact quiet_addressesOf charm _

/-! ### The cluster lock and the rejoin -/

section
variable {bad : Call → Prop}

/-- The lock is taken and released by queries alone. -/
theorem avoids_locking (queries : ∀ at_ query, ¬ bad (.executeSql at_ query)) {at_ : Target} {label task : String}
    {body : Hook Unit} (inside : Avoids bad body) : Avoids bad (ClusterClient.locking at_ label task body) := by
  refine avoids_bind (avoids_retry ?_ _) fun _ => avoids_finallyDo inside ?_
  · exact avoids_bind (avoids_ask (queries _ _)) fun _ => avoids_ite _ (fun _ => trivial) (fun _ => trivial)
  · exact avoids_bind (avoids_ask (queries _ _)) fun _ => avoids_ite _ (fun _ => trivial) (fun _ => trivial)

/-- A rejoin looks around, takes the lock and rejoins. -/
theorem avoids_rejoinInstance (loud : ∀ c, bad c → Loud c) (queries : ∀ at_ query, ¬ bad (.executeSql at_ query))
    (rejoin : ∀ at_ host, ¬ bad (.rejoinInstance at_ host)) (charm : Charm) : Avoids bad (rejoinInstance charm) := by
  refine avoids_bind (avoids_mono loud (quiet_collectPeerAddresses charm)) fun addresses => ?_
  refine avoids_ite _ (fun _ => trivial) fun _ => ?_
  refine avoids_bind (avoids_mono loud (quiet_getUnitAddress _ _ _)) fun host => ?_
  refine avoids_bind (avoids_mono loud (quiet_findClusterPrimary _)) fun primary => ?_
  split
  · trivial
  · refine avoids_bind (avoids_mono loud (quiet_ask rfl)) fun _ => ?_
    refine avoids_bind (avoids_mono loud (quiet_fetchInstances _)) fun _ => ?_
    exact avoids_ite _ (fun _ => avoids_locking queries (avoids_ask (rejoin _ _))) (fun _ => trivial)

end

end MysqlOperators.Quiet
