import MysqlOperators.Quiet
import MysqlOperators.Cluster
import MysqlOperators.Lifecycle

/-!
What the hooks of a running unit can touch: besides quiet calls, update-status
publishes the state of the unit, and relation-changed joins it to the cluster.
-/
namespace MysqlOperators.Footprint
open MysqlOperators.Program MysqlOperators.Program.Prog MysqlOperators.External MysqlOperators.Clients
open MysqlOperators.Workload MysqlOperators.Helpers MysqlOperators.Quiet MysqlOperators.Cluster
set_option linter.unusedSectionVars false

section
variable {bad : Call → Prop} (loud : ∀ c, bad c → Loud c)
include loud

theorem avoids_quiet {α : Type} {p : Hook α} (quiet : Avoids Loud p) : Avoids bad p := avoids_mono loud quiet

/-! ### Update-status -/

section
variable (publish : ∀ key value, ¬ bad (.setUnitData key value))
include publish

theorem avoids_publish (role : Option InstanceRole) (state : Option String) :
    Avoids bad (do setInstanceRole role; setInstanceState state : Hook Unit) :=
  avoids_bind (avoids_ask (publish _ _)) (fun _ => avoids_ask (publish _ _))

theorem avoids_updateState (role : Option InstanceRole) (state : Option String) :
    Avoids bad (Lifecycle.LifecycleManager.updateState role state) := by
  refine avoids_bind ?_ fun _ => avoids_bind ?_ fun _ => avoids_publish loud publish _ _
  · cases role with
    | none => exact avoids_quiet loud (quiet_ask rfl)
    | some _ => exact avoids_ret _
  · cases nonEmpty state with
    | none => exact avoids_bind (avoids_quiet loud (quiet_ask rfl)) (fun _ => trivial)
    | some _ => exact avoids_ret _

theorem avoids_onUpdateStatus (charm : Charm) : Avoids bad (Lifecycle.onUpdateStatus charm) := by
  refine avoids_bind (avoids_quiet loud (quiet_initialized _)) fun _ => avoids_ite _ (fun _ => ?_) (fun _ => trivial)
  refine avoids_bind (avoids_updateState loud publish _ _) fun _ => ?_
  refine avoids_bind (avoids_quiet loud (quiet_updateAppLabels _)) fun _ => ?_
  exact avoids_quiet loud quiet_setBuiltStatuses

/-! ### Relation-changed -/

variable (queries : ∀ at_ query, ¬ bad (.executeSql at_ query))
  (detach : ∀ at_ host, ¬ bad (.detachInstance at_ host)) (rescan : ∀ at_, ¬ bad (.rescanCluster at_))
  (attach : ∀ at_ label host method, ¬ bad (.attachInstance at_ label host method))
include queries detach rescan attach

theorem avoids_joinInstance (label host : String) (addresses : List String) :
    Avoids bad (ClusterManager.joinInstance label host addresses) := by
  refine avoids_bind (avoids_quiet loud (quiet_findClusterPrimary _)) fun primary => ?_
  split
  · trivial
  · rename_i primary
    have publishing : Avoids bad ClusterManager.updateState :=
      avoids_bind (avoids_quiet loud (quiet_ask rfl)) fun _ => avoids_bind (avoids_quiet loud (quiet_ask rfl)) fun _ =>
        avoids_publish loud publish _ _
    have adding : Avoids bad (do ClusterClient.addInstance (.host primary) label host
                                 ClusterManager.updateState : Hook Unit) :=
      avoids_bind (avoids_locking queries (avoids_tryExcept (avoids_ask (attach _ _ _ _))
        (fun _ => avoids_ask (attach _ _ _ _)))) (fun _ => publishing)
    refine avoids_bind (avoids_quiet loud (quiet_ask rfl)) fun _ => ?_
    refine avoids_bind (avoids_quiet loud (quiet_fetchInstances _)) fun _ => avoids_ite _ (fun _ => ?_) (fun _ => adding)
    refine avoids_bind ?_ fun _ => avoids_bind (avoids_ask (rescan _)) (fun _ => adding)
    exact avoids_bind (avoids_quiet loud (quiet_clusterPrimary _)) fun _ =>
      avoids_ite _ (fun _ => trivial) (fun _ => avoids_locking queries (avoids_ask (detach _ _)))

theorem avoids_onRelationChanged (deferral : ¬ bad .defer) (charm : Charm) :
    Avoids bad (onRelationChanged charm) := by
  refine avoids_bind (avoids_quiet loud (quiet_updateDatabaseEndpoints _)) fun _ => ?_
  refine avoids_bind (avoids_quiet loud (quiet_ask rfl)) fun peers => ?_
  split
  · exact avoids_ask deferral
  · refine avoids_bind (avoids_quiet loud (quiet_collectPeerAddresses _)) fun _ => ?_
    refine avoids_ite _ (fun _ => avoids_ask deferral) fun _ => ?_
    refine avoids_bind (avoids_quiet loud quiet_clusterName) fun _ => ?_
    refine avoids_bind (avoids_quiet loud (quiet_getUnitAddress _ _ _)) fun _ => ?_
    refine avoids_bind ?_ fun _ => avoids_ite _ (fun _ => ?_) (fun _ => trivial)
    · refine avoids_bind (avoids_quiet loud (quiet_ask rfl)) fun _ => avoids_ite _ (fun _ => trivial) fun _ => ?_
      refine avoids_bind (avoids_quiet loud quiet_fetchClusterLabels) fun _ => avoids_ite _ (fun _ => trivial) fun _ => ?_
      refine avoids_bind (avoids_quiet loud (quiet_fetchInstances _)) fun _ => ?_
      exact avoids_ite _ (fun _ => trivial) (fun _ => avoids_ite _ (fun _ => trivial) (fun _ => trivial))
    · refine avoids_bind (avoids_joinInstance loud publish queries detach rescan attach _ _ _) fun _ => ?_
      exact avoids_bind (avoids_quiet loud quiet_buildUnitStatus) (fun _ => avoids_quiet loud (quiet_setUnitStatus _))

end
end

end MysqlOperators.Footprint
