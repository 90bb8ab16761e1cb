import MysqlOperators.Outage
import MysqlOperators.Quorum

/-!
When the leader recovers from a complete outage. Its own instance is OFFLINE, each
peer has published that its own one is, or that it still waits to join, and nobody
sees an ONLINE member. The states of the peers decide whether the self-healing event
reboots the cluster.
-/
namespace MysqlOperators.OutageStates
open MysqlOperators.Program MysqlOperators.Program.Prog MysqlOperators.External MysqlOperators.Clients
open MysqlOperators.Workload MysqlOperators.Helpers MysqlOperators.SelfHealing MysqlOperators.Quiet
open MysqlOperators.Scripted
open MysqlOperators.Outage (countCall stopCall unreachableCall rebootCall)
open MysqlOperators.Quorum (Member LocalView start rules answer stopped inStates filter_unreachable_eq_nil)

/-- The instance's server runs, it knows the cluster and nothing is being refreshed;
    the instance is OFFLINE, and its unit is the leader. -/
structure OfflineLeader (script : Script Call Reply Exn) (charm : Charm) : Prop where
  runs : ∀ n < 2, match charm.substrate with
    | .vm => script.reply .snapPresent n = .ok true ∧ script.reply .snapServiceActive n = .ok true
    | .k8s => script.reply .canConnect n = .ok true ∧
        script.reply (.serviceRunning ServerService.name) n = .ok (some true)
  known : ∃ labels name, script.reply (.clusterLabels .own) 0 = .ok labels ∧
    script.reply (.appData "cluster-name") 0 = .ok name ∧ labels.contains ((nonEmpty name).getD "") = true
  settled : script.reply .refreshing 0 = .ok false
  offline : script.reply (.instanceState .own) 0 = .ok (some .offline)
  leads : script.reply .isLeader 0 = .ok true

/-- What MySQL documents: an instance that is OFFLINE belongs to no group, so it sees
    no member as UNREACHABLE, and the queries of MySQL Shell raise `ExecutionError`. -/
structure Documented (script : Script Call Reply Exn) (view : List Member) : Prop where
  apart : ∀ m ∈ view, m.state ≠ .unreachable
  raises : ∀ c ∈ [countCall,stopCall,unreachableCall], ∀ e, script.reply c 0 = .error e → e.isExecutionError = true

/-- The cluster is rebooted, and recreated if the reboot fails. -/
def Recovers (script : Script Call Reply Exn) (log : List Call) : Prop :=
  rebootCall ∈ log ∧
    ∀ e, script.reply rebootCall 0 = .error e → e.isRuntimeError = true → Call.dropMetadata .own ∈ log

section
variable (script : Script Call Reply Exn)

/-! ### The steps of the handler -/

/-- The calls before the leader's own part. -/
def prelude : Substrate → List Call
  | .vm => [.snapPresent,.snapServiceActive,.snapPresent,.snapServiceActive,.clusterLabels .own,
      .appData "cluster-name",.refreshing,.instanceState .own,.isLeader]
  | .k8s => [.canConnect,.serviceRunning ServerService.name,.canConnect,.serviceRunning ServerService.name,
      .clusterLabels .own,.appData "cluster-name",.refreshing,.instanceState .own,.isLeader]

theorem run_running {charm : Charm} {n : Nat} (runs : match charm.substrate with
      | .vm => script.reply .snapPresent n = .ok true ∧ script.reply .snapServiceActive n = .ok true
      | .k8s => script.reply .canConnect n = .ok true ∧
          script.reply (.serviceRunning ServerService.name) n = .ok (some true))
    (w : LocalView) (log : List Call) (calls : ∀ c ∈ (prelude charm.substrate).take 2, log.count c = n) :
    run (respond rules script) (ServerService.running charm.substrate) ⟨w,log⟩ =
      (.ok true,⟨w,log ++ (prelude charm.substrate).take 2⟩) := by
  obtain ⟨substrate,_,_,_,_⟩ := charm
  cases substrate with
  | vm =>
    have present : log.count .snapPresent = n := calls _ (by simp [prelude])
    have active : log.count .snapServiceActive = n := calls _ (by simp [prelude])
    simp [ServerService.running,run_bind,respond,rules,answer,Quorum.effect,present,active,runs.1,runs.2,prelude]
  | k8s =>
    have connects : log.count .canConnect = n := calls _ (by simp [prelude])
    have service : log.count (.serviceRunning ServerService.name) = n := calls _ (by simp [prelude])
    simp [ServerService.running,run_bind,respond,rules,answer,Quorum.effect,connects,service,runs.1,runs.2,prelude]

/-- The handler gets as far as the leader's own part. -/
theorem run_onSelfHealing {charm : Charm} (ready : OfflineLeader script charm) (w : LocalView) :
    run (respond rules script) (onSelfHealing charm) ⟨w,[]⟩ =
      run (respond rules script) (do recoverFromOfflineLeader charm; updateDatabaseEndpoints charm : Hook Unit)
        ⟨w,prelude charm.substrate⟩ := by
  obtain ⟨labels,name,labelled,named,member⟩ := ready.known
  have first := run_running script (ready.runs 0 (by decide)) w [] (fun _ _ => rfl)
  have again := run_running script (ready.runs 1 (by decide)) w ((prelude charm.substrate).take 2)
    (by cases charm.substrate <;> decide)
  have initialized : run (respond rules script) (initialized charm) ⟨w,(prelude charm.substrate).take 2⟩ =
      (.ok true,⟨w,(prelude charm.substrate).take 6⟩) := by
    rw [Helpers.initialized,run_bind,again]
    cases charm.substrate <;>
      simp [InstanceClient.fetchClusterLabels,clusterName,run_bind,run_tryElse,run_tryExcept,respond,rules,answer,
        Quorum.effect,prelude,labelled,named,member,-List.contains_eq_mem,-bind_pure_comp]
  rw [onSelfHealing,run_bind,first,List.nil_append]
  simp only [if_true,run_bind (respond rules script) (Helpers.initialized charm),initialized]
  cases charm.substrate <;>
    simp [fetchInstanceState,InstanceClient.fetchState,Helpers.isLeader,run_bind,respond,rules,answer,Quorum.effect,
      prelude,ready.settled,ready.offline,ready.leads]

/-- Without an ONLINE member in view, none is counted. -/
theorem run_fetchClusterMembers {view : List Member} (documented : Documented script view) {w : LocalView}
    (sees : w.view = view) (offline : ∀ m ∈ view, m.state ≠ .online) {log : List Call}
    (first : log.count countCall = 0) :
    run (respond rules script) fetchClusterMembers ⟨w,log⟩ = (.ok 0,⟨w,log ++ [countCall]⟩) := by
  have none : w.view.filter (inStates [.online]) = [] := by
    rw [sees]
    simpa [List.filter_eq_nil_iff,inStates] using offline
  rcases answered : script.reply countCall 0 with e | members
  · have caught := documented.raises countCall (by simp) e answered
    simp [fetchClusterMembers,InstanceClient.countClusterMembers,run_tryElse,respond,rules,answer,Quorum.effect,first,
      answered,caught]
  · simp [fetchClusterMembers,InstanceClient.countClusterMembers,run_tryElse,respond,rules,answer,Quorum.effect,first,
      answered,none]

/-- Stopping replication shows no member that was not in view. -/
theorem run_stopReplication {view : List Member} (documented : Documented script view) {w : LocalView}
    (sees : w.view = view) (log : List Call) (first : log.count stopCall = 0) :
    ∃ w', run (respond rules script) SelfHealing.stopReplication ⟨w,log⟩ = (.ok (),⟨w',log ++ [stopCall]⟩) ∧
      ∀ m ∈ w'.view, m.state ≠ .unreachable := by
  have before : ∀ m ∈ w.view, m.state ≠ .unreachable := by
    rw [sees]
    exact documented.apart
  have after : ∀ m ∈ (stopped w).view, m.state ≠ .unreachable := by simp [stopped]
  rcases answered : script.reply stopCall 0 with e | done
  · have caught := documented.raises stopCall (by simp) e answered
    cases happened : script.takesEffect stopCall 0 with
    | false =>
      refine ⟨w,?_,before⟩
      simp [SelfHealing.stopReplication,InstanceClient.stopReplication,run_tryExcept,respond,rules,answer,Quorum.effect,
        first,answered,caught,happened]
    | true =>
      refine ⟨stopped w,?_,after⟩
      simp [SelfHealing.stopReplication,InstanceClient.stopReplication,run_tryExcept,respond,rules,answer,Quorum.effect,
        first,answered,caught,happened]
  · refine ⟨stopped w,?_,after⟩
    simp [SelfHealing.stopReplication,InstanceClient.stopReplication,run_tryExcept,respond,rules,answer,Quorum.effect,
      first,answered]

/-- Without an UNREACHABLE member in view, the cluster is rebooted. -/
theorem run_recoverClusterQuorum {view : List Member} (documented : Documented script view) {w : LocalView}
    (apart : ∀ m ∈ w.view, m.state ≠ .unreachable) (log : List Call) (first : log.count unreachableCall = 0)
    (unbooted : log.count rebootCall = 0) :
    ∃ w', run (respond rules script) recoverClusterQuorum ⟨w,log⟩ =
      (script.reply rebootCall 0,⟨w',log ++ [unreachableCall,rebootCall]⟩) := by
  have none : w.view.filter (inStates [.unreachable]) = [] := (filter_unreachable_eq_nil w.view).mpr apart
  rcases answered : script.reply unreachableCall 0 with e | members
  · have caught := documented.raises unreachableCall (by simp) e answered
    refine ⟨{ w with reboots := w.reboots ++ [w.counted] },?_⟩
    simp [recoverClusterQuorum,ClusterClient.reboot,InstanceClient.countClusterMembers,run_bind,run_tryElse,respond,
      rules,answer,Quorum.effect,first,unbooted,answered,caught]
  · refine ⟨{ w with counted := w.counted ++ [w.view],reboots := w.reboots ++ [w.counted ++ [w.view]] },?_⟩
    simp [recoverClusterQuorum,ClusterClient.reboot,InstanceClient.countClusterMembers,run_bind,run_tryElse,respond,
      rules,answer,Quorum.effect,first,unbooted,answered,none]

theorem recovers_mono {script : Script Call Reply Exn} {log later : List Call} (grows : log ⊆ later)
    (recovers : Recovers script log) : Recovers script later :=
  ⟨grows recovers.1,fun e failed runtime => grows (recovers.2 e failed runtime)⟩

/-- Once the outage is seen, the cluster is rebooted or recreated. -/
theorem recovers_begun {view : List Member} (documented : Documented script view) {w : LocalView}
    (sees : w.view = view) (offline : ∀ m ∈ view, m.state ≠ .online) (charm : Charm) (log : List Call)
    (unused : ∀ c ∈ [countCall,stopCall,unreachableCall,rebootCall], log.count c = 0) :
    Recovers script (run (respond rules script) (do
      if (← fetchClusterMembers) > 0 then pure ()
      else
        (do SelfHealing.stopReplication; recoverClusterQuorum : Hook Unit).tryElse Exn.isRuntimeError
          (fun _ => SelfHealing.recreateCluster (getUnitLabel charm charm.unit))
          (fun _ => setBuiltStatuses) : Hook Unit)
      ⟨w,log⟩).2.log := by
  have counted := run_fetchClusterMembers script documented sees offline (unused countCall (by simp))
  obtain ⟨w₁,stops,apart⟩ := run_stopReplication script documented sees (log ++ [countCall])
    (by simp [unused stopCall (by simp)])
  obtain ⟨w₂,reboots⟩ := run_recoverClusterQuorum script documented apart (log ++ [countCall] ++ [stopCall])
    (by simp [unused unreachableCall (by simp)]) (by simp [unused rebootCall (by simp)])
  have steps : run (respond rules script) (do SelfHealing.stopReplication; recoverClusterQuorum : Hook Unit)
      ⟨w,log ++ [countCall]⟩ = (script.reply rebootCall 0,
        ⟨w₂,log ++ [countCall] ++ [stopCall] ++ [unreachableCall,rebootCall]⟩) := by
    rw [run_bind,stops]
    exact reboots
  have called : rebootCall ∈ log ++ [countCall] ++ [stopCall] ++ [unreachableCall,rebootCall] := by simp
  rw [run_bind,counted]
  simp only [gt_iff_lt,Nat.lt_irrefl,if_false]
  rw [run_tryElse,steps]
  rcases ended : script.reply rebootCall 0 with e | done
  · by_cases runtime : e.isRuntimeError = true
    · simp only [runtime,if_true]
      refine ⟨run_log_grows rules script _ _ called,fun _ _ _ => ?_⟩
      refine run_log_bind rules script (ask (.dropMetadata .own)) _ _ ?_
      simp [respond]
    · simp only [runtime]
      refine ⟨called,fun e' failed runtime' => ?_⟩
      obtain rfl := Except.error.inj (ended.symm.trans failed)
      exact absurd runtime' runtime
  · refine ⟨run_log_grows rules script _ _ called,fun e failed => ?_⟩
    rw [ended] at failed
    cases failed

/-! ### The states of the peers -/

theorem outageStates_iff {states : List String}
    (known : ∀ s ∈ states, s = InstanceState.offline.value ∨ s = "waiting") :
    outageStates states = true ↔ (∀ s ∈ states, s = InstanceState.offline.value) ∨ ∀ s ∈ states, s = "waiting" := by
  unfold outageStates
  rw [Bool.or_eq_true_iff,Bool.or_eq_true_iff,List.isEmpty_iff]
  simp only [List.all_eq_true,beq_iff_eq]
  constructor
  · rintro ((rfl | offline) | waiting)
    · exact .inl (by simp)
    · exact .inl offline
    · exact .inr waiting
  · rintro (offline | waiting)
    · exact .inl (.inr offline)
    · exact .inr waiting

/-- With peers that are OFFLINE or wait to join, the leader recovers the cluster exactly
    when all of them are in the same of these two states. -/
theorem recovers_iff (charm : Charm) (me : String) (view : List Member) (peers : Option PeersRelation)
    (ready : OfflineLeader script charm) (related : script.reply .peersRelation 0 = .ok peers)
    (states : ∀ s ∈ peerStatesOf peers, s = InstanceState.offline.value ∨ s = "waiting")
    (offline : ∀ m ∈ view, m.state ≠ .online) (documented : Documented script view) :
    Recovers script (play rules script (onSelfHealing charm) (start me view)).2.log ↔
      (∀ s ∈ peerStatesOf peers, s = InstanceState.offline.value) ∨ ∀ s ∈ peerStatesOf peers, s = "waiting" := by
  have unused : ∀ c ∈ [.peersRelation,countCall,stopCall,unreachableCall,rebootCall],
      (prelude charm.substrate).count c = 0 := by
    cases charm.substrate <;> decide
  have collected : run (respond rules script) collectPeerStates ⟨start me view,prelude charm.substrate⟩ =
      (.ok (peerStatesOf peers),⟨start me view,prelude charm.substrate ++ [.peersRelation]⟩) := by
    rw [collectPeerStates_eq,run_bind,run_perform]
    simp [respond,rules,answer,Quorum.effect,unused .peersRelation (by simp),related]
  have noOnline : (peerStatesOf peers).contains InstanceState.online.value = false := by
    rw [Bool.eq_false_iff]
    intro member
    rcases states _ (by simpa using member) with same | same <;> simp [InstanceState.value] at same
  rw [play,run_onSelfHealing script ready,← outageStates_iff states]
  constructor
  · intro recovers
    by_contra mixed
    have ends : run (respond rules script) (recoverFromOfflineLeader charm) ⟨start me view,prelude charm.substrate⟩ =
        (.ok (),⟨start me view,prelude charm.substrate ++ [.peersRelation]⟩) := by
      rw [recoverFromOfflineLeader,run_bind,collected]
      simp [noOnline,mixed,-List.contains_eq_mem]
    have later := recovers.1
    rw [run_bind,ends,run_log_avoids rules script (quiet_updateDatabaseEndpoints charm) (c := rebootCall) rfl,
      List.mem_append] at later
    rcases later with earlier | last
    · exact absurd (List.count_pos_iff.mpr earlier) (by simp [unused rebootCall (by simp)])
    · simp at last
  · intro seen
    have begun := recovers_begun script documented (w := start me view) rfl offline charm
      (prelude charm.substrate ++ [.peersRelation]) (by
        intro c member
        have before := unused c (List.mem_cons_of_mem _ member)
        simp only [List.mem_cons,List.not_mem_nil,or_false] at member
        rcases member with rfl | rfl | rfl | rfl <;> simp [before])
    refine recovers_mono (run_log_bind rules script (recoverFromOfflineLeader charm) _ _) ?_
    rw [recoverFromOfflineLeader,run_bind,collected]
    simpa only [noOnline,seen,if_true,Bool.false_eq_true,if_false] using begun

end

/-- A leader on a machine, whose calls all succeed. -/
def leader : Charm := ⟨.vm,"mysql",0,"cluster-set","10.0.0.10"⟩

def published (states : List String) : PeersRelation :=
  ⟨states.zipIdx.map fun state => (state.2 + 1,[("member-state",state.1)]),[("member-state","OFFLINE")],0⟩

def outageScript (states : List String) : Script Call Reply Exn where
  reply c _ := match c with
    | .snapPresent => .ok true
    | .snapServiceActive => .ok true
    | .clusterLabels _ => .ok ["cluster"]
    | .appData _ => .ok (some "cluster")
    | .instanceState _ => .ok (some .offline)
    | .isLeader => .ok true
    | .peersRelation => .ok (some (published states))
    | _ => .ok default
  takesEffect _ _ := false

theorem offlineLeader_script (states : List String) : OfflineLeader (outageScript states) leader where
  runs _ _ := ⟨rfl,rfl⟩
  known := ⟨["cluster"],some "cluster",rfl,rfl,by decide⟩
  settled := rfl
  offline := rfl
  leads := rfl

theorem documented_script (states : List String) : Documented (outageScript states) [⟨"mysql-0",.offline⟩] where
  apart := by decide
  raises c member e failed := by
    simp only [List.mem_cons,List.not_mem_nil,or_false] at member
    rcases member with rfl | rfl | rfl <;> cases failed

theorem recovers_iff_offline : Recovers (outageScript ["OFFLINE","OFFLINE"])
    (play rules (outageScript ["OFFLINE","OFFLINE"]) (onSelfHealing leader)
      (start "mysql-0" [⟨"mysql-0",.offline⟩])).2.log :=
  (recovers_iff _ leader "mysql-0" [⟨"mysql-0",.offline⟩] (some (published ["OFFLINE","OFFLINE"]))
    (offlineLeader_script _) rfl (by decide) (by decide) (documented_script _)).mpr (.inl (by decide))

/-- One peer is OFFLINE and the other waits to join: the leader does nothing. -/
theorem mixed_ignored :
    ¬ ∀ (script : Script Call Reply Exn) (charm : Charm) (me : String) (view : List Member)
      (peers : Option PeersRelation), OfflineLeader script charm → script.reply .peersRelation 0 = .ok peers →
      (∀ s ∈ peerStatesOf peers, s = InstanceState.offline.value ∨ s = "waiting") →
      (∀ m ∈ view, m.state ≠ .online) → Documented script view →
      Recovers script (play rules script (onSelfHealing charm) (start me view)).2.log := by
  intro always
  have recovers := always (outageScript ["OFFLINE","waiting"]) leader "mysql-0" [⟨"mysql-0",.offline⟩]
    (some (published ["OFFLINE","waiting"])) (offlineLeader_script _) rfl (by decide) (by decide) (documented_script _)
  exact absurd recovers.1 (by decide +kernel)

end MysqlOperators.OutageStates
