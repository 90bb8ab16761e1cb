import MysqlOperators.TlsFiles

/-!
The restarts of the group replication that peer TLS needs: a unit handles
certificate-available and relation-broken events and has its callback called, in any
order, and in each of them every call may fail.
-/
namespace MysqlOperators.TlsRestarts
open MysqlOperators.Program MysqlOperators.Program.Prog MysqlOperators.External MysqlOperators.Clients
open MysqlOperators.Workload MysqlOperators.Helpers MysqlOperators.Quiet MysqlOperators.Scripted
open MysqlOperators.RollingOps MysqlOperators.Tls MysqlOperators.Tls.TLSManager MysqlOperators.TlsFiles
open Function (update)

/-! ### The callback -/

/-- `RollingManager.restart_instance_replication`. -/
def RollingManager.restartInstanceReplication (label host : String) : Hook Unit := do
  match nonEmpty (← ClusterSetClient.fetchPrimaryHost .own) with
  | none => pure ()
  | some primary => do
    let instances ← ClusterClient.fetchInstances (.host primary)
    if (instances.map Prod.fst).contains label then ClusterClient.rejoinInstance (.host primary) label host
    else pure ()

namespace RollingHelper

/-- `_check_cluster_waiting_ops` over the units of the relation. -/
def checkClusterWaitingOps : List UnitId → Hook Bool
  | [] => pure false
  | unit :: rest => do
    if ← ask (.isWaiting clusterCallback unit) then pure true else checkClusterWaitingOps rest

/-- `is_cluster_primary and _check_cluster_waiting_ops(relation)`. -/
def mustWait (units : List UnitId) : Hook Bool := do
  if ← RollingManager.isClusterPrimary then checkClusterWaitingOps units else pure false

def restartCluster (charm : Charm) : Hook OperationResult := do
  if ← ServerService.running charm.substrate then
    match ← ask .peersRelation with
    | none => pure .retryRelease
    | some peers =>
      if ← mustWait (peers.units.map Prod.fst) then pure .retryRelease
      else do
        let host ← getUnitAddress charm charm.unit relationPeers
        RollingManager.restartInstanceReplication (getUnitLabel charm charm.unit) host
        pure .release
  else pure .retryRelease

end RollingHelper

/-! ### Runs -/

/-- The persisted variables of the group replication's TLS. -/
def groupTlsVariables : List String :=
  [InstanceClient.groupVariables.ca,InstanceClient.groupVariables.cert,InstanceClient.groupVariables.key,
   "group_replication_recovery_use_ssl","group_replication_ssl_mode"]

def Changed (before after : Server) : Prop := ∃ name ∈ groupTlsVariables, after.settings name ≠ before.settings name

/-- An event is handled, or the callback is called with the lock. -/
inductive Step where
  | handled (h : Handling)
  | restarted (script : Script Call Reply Exn)

def next (charm : Charm) (w : Server) : Step → Server
  | .handled h => (handle .peer charm w h).world
  | .restarted script => (play rules script (RollingHelper.restartCluster charm) w).2.world

/-- The address of the unit itself, when the callback asks for it. -/
def OwnAddress (script : Script Call Reply Exn) (charm : Charm) (host : String) : Prop :=
  match charm.substrate with
  | .vm => ∃ peers : Option PeersRelation, script.reply .peersRelation 1 = .ok peers ∧
      (peers.bind fun peers => PeerStateUnit.getUnitAddress peers.own relationPeers).getD "" = host
  | .k8s => script.reply (.hostname (getUnitLabel charm charm.unit ++ "." ++ charm.appName ++ "-endpoints")) 0 = .ok host ∧
      Python.occursIn (getUnitLabel charm charm.unit ++ "." ++ charm.appName ++ "-endpoints").toList host.toList = true

/-- The primary of the cluster-set has been asked to rejoin the unit's instance. -/
def Rejoined (script : Script Call Reply Exn) (charm : Charm) (log : List Call) : Prop :=
  ∃ status primary host, script.reply (.clusterSetStatus .own) 0 = .ok status ∧
    ClusterSetClient.primaryOf status = .ok (some primary) ∧ OwnAddress script charm host ∧
    .rejoinInstance (.host primary) host ∈ log

/-- A handling asks for a restart if and only if it changes the variables, and the
    callback is done only after a rejoin. -/
def Right (charm : Charm) (w : Server) : Step → Prop
  | .handled h => .requestLock clusterCallback ∈ (handle .peer charm w h).log ↔ Changed w (handle .peer charm w h).world
  | .restarted script => (play rules script (RollingHelper.restartCluster charm) w).1 = .ok .release →
      Rejoined script charm (play rules script (RollingHelper.restartCluster charm) w).2.log

/-- A property of each step of a run and the server before it. -/
def Along (charm : Charm) (P : Server → Step → Prop) : Server → List Step → Prop
  | _, [] => True
  | w, step :: rest => P w step ∧ Along charm P (next charm w step) rest

/-! ### What a handling comes to -/

/-- The values of the variables that enabling and disabling set. -/
def groupAssignments (ca cert key : String) (enable : Bool) : List (String × String) :=
  [(InstanceClient.groupVariables.ca,ca),(InstanceClient.groupVariables.cert,cert),
   (InstanceClient.groupVariables.key,key),
   ("group_replication_recovery_use_ssl",if enable then "ON" else "OFF"),
   ("group_replication_ssl_mode",if enable then "REQUIRED" else "DISABLED")]

def enabledAssignments (s : Substrate) (data : TLSData) : List (String × String) :=
  groupAssignments (arguments s .peer data).1 (arguments s .peer data).2.1 (arguments s .peer data).2.2 true

def disabledAssignments : List (String × String) := groupAssignments "" "" "" false

/-- How setting variables in turn ends, and which of them are set. -/
def settled (script : Script Call Reply Exn) : List (String × String) → Except Exn Unit × List (String × String)
  | [] => (.ok (),[])
  | a :: rest =>
    match script.reply (.persistVariable .own a.1 a.2) 0 with
    | .ok _ => ((settled script rest).1,a :: (settled script rest).2)
    | .error e => (.error e,if script.takesEffect (.persistVariable .own a.1 a.2) 0 then [a] else [])

/-- A variable is set to another value than it has. -/
def NewValues (script : Script Call Reply Exn) (w : Server) (assignments : List (String × String)) : Prop :=
  ∃ a ∈ (settled script assignments).2, w.settings a.1 ≠ some a.2

/-- The second status of a handling is set, unless the charm is being refreshed. -/
def ShownAgain (script : Script Call Reply Exn) (status : Status) : Prop :=
  script.reply .refreshing 1 = .ok true ∨
    script.reply .refreshing 1 = .ok false ∧ script.reply (.setUnitStatus status) 0 = .ok ()

/-- The unit shows how enabling ended. -/
def Closes (script : Script Call Reply Exn) : Except Exn Unit → Prop
  | .ok _ => ∃ status, (play rules script buildUnitStatus ⟨[],fun _ => none⟩).1 = .ok status ∧ ShownAgain script status
  | .error e => e.isRuntimeError = true ∧ ShownAgain script (.blocked "Failed to enable TLS")

/-- No exception ends a handling of certificate-available. -/
def Returns (script : Script Call Reply Exn) (s : Substrate) : Prop :=
  Deferred script s .peer ∨
    ∃ data, Reaches script s .peer data ∧ Closes script (settled script (enabledAssignments s data)).1

/-- A handling of certificate-available gives a variable another value. -/
def Enables (script : Script Call Reply Exn) (s : Substrate) (w : Server) : Prop :=
  ∃ data, Reaches script s .peer data ∧ NewValues script w (enabledAssignments s data)

/-- A handling of relation-broken gives a variable another value. -/
structure Disables (script : Script Call Reply Exn) (s : Substrate) (w : Server) : Prop where
  runs : Runs script s
  shown : Shown script (.maintenance "Disabling TLS")
  values : NewValues script w disabledAssignments

/-- No unit that is asked is waiting; a unit may be listed twice. -/
def NoneWaits (script : Script Call Reply Exn) : List UnitId → List UnitId → Prop
  | _, [] => True
  | asked, unit :: rest => script.reply (.isWaiting clusterCallback unit) (asked.count unit) = .ok false ∧
      NoneWaits script (asked ++ [unit]) rest

/-- The callback gets to the replication. -/
structure Proceeds (script : Script Call Reply Exn) (charm : Charm) (host : String) : Prop where
  runs : Runs script charm.substrate
  free : ∃ peers role, script.reply .peersRelation 0 = .ok (some peers) ∧ script.reply (.instanceRole .own) 0 = .ok role ∧
    (role = some .primary → NoneWaits script [] (peers.units.map Prod.fst))
  address : OwnAddress script charm host

/-- The primary has the unit among its instances, or does not answer. -/
def Listed (script : Script Call Reply Exn) (primary label : String) : Prop :=
  match script.reply (.clusterStatus (.host primary)) 0 with
  | .ok status => label ∈ status.topology.map Prod.fst
  | .error e => e.isExecutionError = false

/-- The status of the cluster-set has a primary, and it has the unit among its instances. -/
def Joinable (script : Script Call Reply Exn) (charm : Charm) : Prop :=
  ∀ status primary?, script.reply (.clusterSetStatus .own) 0 = .ok status →
    ClusterSetClient.primaryOf status = .ok primary? →
      ∃ primary, nonEmpty primary? = some primary ∧ Listed script primary (getUnitLabel charm charm.unit)

/-- What a step has to find. -/
def Meets (charm : Charm) (w : Server) : Step → Prop
  | .handled ⟨.certificateAvailable,script⟩ => Returns script charm.substrate ↔ Enables script charm.substrate w
  | .handled ⟨.relationBroken,script⟩ => ¬ Disables script charm.substrate w
  | .restarted script => (∃ host, Proceeds script charm host) → Joinable script charm

section
variable (script : Script Call Reply Exn)

/-! ### The callback, step by step -/

/-- The calls of the restart itself. -/
def restarts : Call → Bool
  | .clusterSetStatus _ | .clusterStatus _ | .rejoinInstance _ _ => true
  | _ => false

/-- The checks before the restart: the address of the unit, if it goes on. -/
def checking (charm : Charm) : Hook (Option String) := do
  if ← ServerService.running charm.substrate then
    match ← ask .peersRelation with
    | none => pure none
    | some peers =>
      if ← RollingHelper.mustWait (peers.units.map Prod.fst) then pure none
      else do
        let host ← getUnitAddress charm charm.unit relationPeers
        pure (some host)
  else pure none

def concluding (charm : Charm) : Option String → Hook OperationResult
  | none => pure .retryRelease
  | some host => do
    RollingManager.restartInstanceReplication (getUnitLabel charm charm.unit) host
    pure .release

theorem restartCluster_eq (charm : Charm) :
    RollingHelper.restartCluster charm = checking charm >>= concluding charm := by
  unfold RollingHelper.restartCluster checking
  simp only [bind_assoc]
  congr 1
  funext runs
  split
  · rw [bind_assoc]
    congr 1
    funext peers?
    cases peers? with
    | none => rfl
    | some peers =>
      simp only [bind_assoc]
      congr 1
      funext waits
      split
      · rfl
      · rw [bind_assoc]
        rfl
  · rfl

theorem run_waiting (units asked : List UnitId) {w : Server} {log : List Call}
    (known : ∀ unit, log.count (.isWaiting clusterCallback unit) = asked.count unit) :
    (run (respond rules script) (RollingHelper.checkClusterWaitingOps units) ⟨w,log⟩).1 = .ok false ↔
      NoneWaits script asked units := by
  induction units generalizing asked log with
  | nil => simp [RollingHelper.checkClusterWaitingOps,NoneWaits]
  | cons unit rest ih =>
    have told (other : UnitId) : (log ++ [Call.isWaiting clusterCallback unit]).count (.isWaiting clusterCallback other) =
        (asked ++ [unit]).count other := by
      rw [count_append_single,List.count_append,known,List.count_singleton]
      by_cases same : unit = other
      · simp [same]
      · simp [same]
    rcases answered : script.reply (.isWaiting clusterCallback unit) (asked.count unit) with e | (_ | _)
    · simp [RollingHelper.checkClusterWaitingOps,NoneWaits,run_bind,respond,rules,known,answered]
    · rw [NoneWaits,and_iff_right answered,← ih (asked ++ [unit]) told]
      simp [RollingHelper.checkClusterWaitingOps,run_bind,respond,rules,known,answered,effect]
    · simp [RollingHelper.checkClusterWaitingOps,NoneWaits,run_bind,respond,rules,known,answered]

theorem avoids_mustWait {bad : Call → Prop} (role : ¬ bad (.instanceRole .own))
    (waits : ∀ unit, ¬ bad (.isWaiting clusterCallback unit)) (units : List UnitId) :
    Avoids bad (RollingHelper.mustWait units) := by
  have waiting : Avoids bad (RollingHelper.checkClusterWaitingOps units) := by
    induction units with
    | nil => trivial
    | cons unit rest ih => exact avoids_bind (avoids_ask (waits unit)) fun _ => avoids_ite _ (fun _ => trivial) fun _ => ih
  exact avoids_bind (avoids_bind (avoids_ask role) fun _ => trivial) fun _ =>
    avoids_ite _ (fun _ => waiting) fun _ => trivial

theorem checking_spares (charm : Charm) : Avoids (fun c => restarts c = true) (checking charm) := by
  refine avoids_bind (avoids_running (fun c probe => ?_) _) fun _ => avoids_ite _ (fun _ => ?_) fun _ => trivial
  · unfold probes at probe
    split at probe <;> first | (simp [restarts]; done) | cases probe
  refine avoids_bind (avoids_ask (by simp [restarts])) fun peers? => ?_
  rcases peers? with _ | peers
  · trivial
  · refine avoids_bind (avoids_mustWait (by simp [restarts]) (by simp [restarts]) _) fun _ => ?_
    refine avoids_ite _ (fun _ => trivial) fun _ => avoids_bind ?_ fun _ => trivial
    exact avoids_getUnitAddress (by simp [restarts]) (by simp [restarts]) _ _ _

theorem run_ownAddress (charm : Charm) (w : Server) (log : List Call) (once : log.count .peersRelation = 1)
    (new : ∀ name, log.count (.hostname name) = 0) (host : String) :
    (run (respond rules script) (getUnitAddress charm charm.unit relationPeers) ⟨w,log⟩).1 = .ok host ↔
      OwnAddress script charm host := by
  unfold getUnitAddress OwnAddress
  cases charm.substrate with
  | vm =>
    rcases answered : script.reply .peersRelation 1 with e | (_ | peers)
    · simp [run_bind,respond,rules,once,answered]
    · simp [run_bind,respond,rules,once,answered]
    · simp [run_bind,respond,rules,once,answered]
  | k8s =>
    simp only
    generalize getUnitLabel charm charm.unit ++ "." ++ charm.appName ++ "-endpoints" = address
    rcases answered : script.reply (.hostname address) 0 with e | found
    · simp [run_bind,respond,rules,new,answered]
    · by_cases occurs : Python.occursIn address.toList found.toList = true
      · simp only [run_bind,run_perform,respond,rules,new,answered,occurs,if_true,run_pure,Except.ok.injEq]
        exact ⟨fun same => ⟨same,same ▸ occurs⟩,And.left⟩
      · simp only [run_bind,run_perform,respond,rules,new,answered,occurs,Except.ok.injEq]
        exact ⟨fun raised => (by cases raised),fun known => absurd (known.1 ▸ known.2) occurs⟩

theorem run_mustWait (units : List UnitId) (w : Server) (log : List Call) (unasked : log.count (.instanceRole .own) = 0)
    (new : ∀ unit, log.count (.isWaiting clusterCallback unit) = 0) :
    (run (respond rules script) (RollingHelper.mustWait units) ⟨w,log⟩).1 = .ok false ↔
      ∃ role, script.reply (.instanceRole .own) 0 = .ok role ∧ (role = some .primary → NoneWaits script [] units) := by
  rcases answered : script.reply (.instanceRole .own) 0 with e | role
  · simp [RollingHelper.mustWait,RollingManager.isClusterPrimary,InstanceClient.fetchRole,run_bind,respond,rules,unasked,
      answered,-bind_pure_comp]
  · have known (unit : UnitId) : (log ++ [Call.instanceRole .own]).count (.isWaiting clusterCallback unit) =
        ([] : List UnitId).count unit := by simp [new]
    by_cases primary : role = some .primary
    · simp only [Except.ok.injEq,exists_eq_left',primary,forall_const]
      rw [← run_waiting script units [] (w := w) known]
      simp [RollingHelper.mustWait,RollingManager.isClusterPrimary,InstanceClient.fetchRole,run_bind,respond,rules,unasked,
        answered,effect,primary,-bind_pure_comp]
    · simp [RollingHelper.mustWait,RollingManager.isClusterPrimary,InstanceClient.fetchRole,run_bind,respond,rules,unasked,
        answered,effect,primary,-bind_pure_comp]

/-- The last two checks: that the unit need not wait, and its address. -/
theorem run_unblocked (charm : Charm) (units : List UnitId) (w : Server) (log : List Call)
    (once : log.count .peersRelation = 1) (unasked : log.count (.instanceRole .own) = 0)
    (new : ∀ unit, log.count (.isWaiting clusterCallback unit) = 0) (unnamed : ∀ name, log.count (.hostname name) = 0)
    (host : String) :
    (run (respond rules script) (do
      if ← RollingHelper.mustWait units then pure none
      else do
        let host ← getUnitAddress charm charm.unit relationPeers
        pure (some host) : Hook (Option String)) ⟨w,log⟩).1 = .ok (some host) ↔
      (∃ role, script.reply (.instanceRole .own) 0 = .ok role ∧ (role = some .primary → NoneWaits script [] units)) ∧
        OwnAddress script charm host := by
  have waits := run_mustWait script units w log unasked new
  have spares : Avoids (fun c : Call => c = .peersRelation ∨ ∃ name, c = .hostname name) (RollingHelper.mustWait units) :=
    avoids_mustWait (by simp) (by simp) _
  have spared {c : Call} (one : c = .peersRelation ∨ ∃ name, c = .hostname name) :=
    run_count_avoids rules script spares one ⟨w,log⟩
  rw [run_bind]
  rcases ran : run (respond rules script) (RollingHelper.mustWait units) ⟨w,log⟩ with ⟨e | waiting,w',log'⟩ <;>
    rw [ran] at waits spared
  · exact ⟨fun raised => (by cases raised),fun known => by cases waits.mpr known.1⟩
  cases waiting with
  | true => exact ⟨fun ended => (by cases ended),fun known => by cases waits.mpr known.1⟩
  | false =>
    have own := run_ownAddress script charm w' log' ((spared (.inl rfl)).trans once)
      (fun name => (spared (.inr ⟨name,rfl⟩)).trans (unnamed name)) host
    rw [and_iff_right (waits.mp rfl),← own]
    simp only [Bool.false_eq_true,if_false]
    rw [run_bind_ok_iff]
    constructor
    · rintro ⟨found,s,ran',same⟩
      obtain rfl : found = host := Option.some.inj (Except.ok.inj same)
      rw [ran']
    · exact fun found => ⟨host,_,Prod.ext found rfl,rfl⟩

theorem run_checking (charm : Charm) (w : Server) (host : String) :
    (run (respond rules script) (checking charm) ⟨w,[]⟩).1 = .ok (some host) ↔ Proceeds script charm host := by
  have running := (run_running script charm.substrate w).1
  have probing : Avoids (fun c => probes c = false) (ServerService.running charm.substrate) :=
    avoids_running (fun c probe => by simp [probe]) charm.substrate
  have unasked {c : Call} (other : probes c = false) := run_count_avoids rules script probing other ⟨w,[]⟩
  rw [checking,run_bind]
  rcases ran : run (respond rules script) (ServerService.running charm.substrate) ⟨w,[]⟩ with ⟨e | runs,w',log⟩ <;>
    rw [ran] at running unasked
  · exact ⟨fun raised => (by cases raised),fun proceeds => by cases running.mpr proceeds.runs⟩
  cases runs with
  | false => exact ⟨fun ended => (by cases ended),fun proceeds => by cases running.mpr proceeds.runs⟩
  | true =>
    have first : log.count .peersRelation = 0 := unasked rfl
    have fresh {c : Call} (other : probes c = false) (notPeers : c ≠ .peersRelation) :
        (log ++ [Call.peersRelation]).count c = 0 := by
      rw [List.count_append,unasked other,List.count_singleton,beq_false_of_ne (Ne.symm notPeers)]
      rfl
    simp only [if_true]
    rw [run_bind,run_perform]
    rcases answered : script.reply .peersRelation 0 with e | (_ | peers)
    · simp only [respond,rules,first,answered]
      refine ⟨fun raised => (by cases raised),fun proceeds => ?_⟩
      obtain ⟨peers,_,known,_⟩ := proceeds.free
      cases answered.symm.trans known
    · simp only [respond,rules,first,answered]
      refine ⟨fun ended => (by cases ended),fun proceeds => ?_⟩
      obtain ⟨peers,_,known,_⟩ := proceeds.free
      cases answered.symm.trans known
    · have told : respond rules script ⟨w',log⟩ .peersRelation = (.ok (some peers),⟨w',log ++ [.peersRelation]⟩) := by
        simp [respond,rules,first,answered,effect]
      rw [told]
      simp only
      rw [run_unblocked script charm _ w' _ (by simp [first]) (fresh rfl (by simp)) (fun _ => fresh rfl (by simp))
        (fun _ => fresh rfl (by simp))]
      constructor
      · rintro ⟨⟨role,asked,none⟩,address⟩
        exact ⟨running.mp rfl,⟨peers,role,answered,asked,none⟩,address⟩
      · intro proceeds
        obtain ⟨peers',role,known,asked,none⟩ := proceeds.free
        obtain rfl := Option.some.inj (Except.ok.inj (answered.symm.trans known))
        exact ⟨⟨role,asked,none⟩,proceeds.address⟩

/-- No call of the restart has been made. -/
def Untried (log : List Call) : Prop := ∀ c, restarts c = true → log.count c = 0

/-- The lock is taken, and the instance rejoins, or the call does not return. -/
theorem rejoin_issued (primary label host : String) :
    Triple rules script (fun _ => True) (ClusterClient.rejoinInstance (.host primary) label host)
      (fun _ s => .rejoinInstance (.host primary) host ∈ s.log) := by
  refine triple_bind (triple_any _) fun _ => triple_finallyDo (Q := fun _ s => .rejoinInstance (.host primary) host ∈ s.log)
    (triple_perform fun s _ _ _ _ _ => ?_) fun _ s _ s' issued ends => ?_
  · simp [Scene.after]
  · have kept := run_log_grows rules script (ClusterClient.releaseLock (.host primary) label ClusterClient.additionTask) s
    rw [ends] at kept
    exact kept issued

theorem run_fetchPrimary {w : Server} {log : List Call} (unreported : log.count (.clusterSetStatus .own) = 0) :
    run (respond rules script) (ClusterSetClient.fetchPrimaryHost .own) ⟨w,log⟩ =
      ((script.reply (.clusterSetStatus .own) 0).bind ClusterSetClient.primaryOf,⟨w,log ++ [.clusterSetStatus .own]⟩) := by
  rcases answered : script.reply (.clusterSetStatus .own) 0 with e | status
  · simp [ClusterSetClient.fetchPrimaryHost,run_bind,respond,rules,unreported,answered,effect]
    rfl
  · simp [ClusterSetClient.fetchPrimaryHost,run_bind,respond,rules,unreported,answered,effect]
    rfl

/-- What the primary answers to the question for its instances. -/
def instances (primary : String) : Except Exn (List (String × InstanceInfo)) :=
  match script.reply (.clusterStatus (.host primary)) 0 with
  | .ok status => .ok status.topology
  | .error e => if e.isExecutionError then .ok [] else .error e

theorem run_fetchInstances (primary : String) {w : Server} {log : List Call}
    (unasked : log.count (.clusterStatus (.host primary)) = 0) :
    run (respond rules script) (ClusterClient.fetchInstances (.host primary)) ⟨w,log⟩ =
      (instances script primary,⟨w,log ++ [.clusterStatus (.host primary)]⟩) := by
  rcases answered : script.reply (.clusterStatus (.host primary)) 0 with e | status
  · by_cases caught : e.isExecutionError = true
    · simp [ClusterClient.fetchInstances,instances,run_tryElse,respond,rules,unasked,answered,effect,caught]
    · simp [ClusterClient.fetchInstances,instances,run_tryElse,respond,rules,unasked,answered,effect,caught]
  · simp [ClusterClient.fetchInstances,instances,run_tryElse,respond,rules,unasked,answered,effect]

theorem listed_iff (primary label : String) : Listed script primary label ↔
    ∀ topology, instances script primary = .ok topology → (topology.map Prod.fst).contains label = true := by
  rcases answered : script.reply (.clusterStatus (.host primary)) 0 with e | status
  · by_cases caught : e.isExecutionError = true
    · simp [Listed,instances,answered,caught]
    · simp [Listed,instances,answered,caught]
  · simp [Listed,instances,answered]

theorem restart_joins (charm : Charm) (host : String) (joinable : Joinable script charm) {w : Server} {log : List Call}
    (untried : Untried log) {s : Scene Server Call} (ran : run (respond rules script)
      (RollingManager.restartInstanceReplication (getUnitLabel charm charm.unit) host) ⟨w,log⟩ = (.ok (),s)) :
    ∃ status primary, script.reply (.clusterSetStatus .own) 0 = .ok status ∧
      ClusterSetClient.primaryOf status = .ok (some primary) ∧ .rejoinInstance (.host primary) host ∈ s.log := by
  rw [RollingManager.restartInstanceReplication,run_bind,run_fetchPrimary script (untried _ rfl)] at ran
  rcases reported : script.reply (.clusterSetStatus .own) 0 with e | status <;> rw [reported] at ran
  · cases ran
  rcases read : ClusterSetClient.primaryOf status with e | primary? <;> simp only [Except.bind,read] at ran
  · cases ran
  obtain ⟨primary,there,listed⟩ := joinable status primary? reported read
  obtain rfl : primary? = some primary := (eq_nonEmpty (by simp [there])).trans there
  have unasked : (log ++ [Call.clusterSetStatus .own]).count (.clusterStatus (.host primary)) = 0 := by
    simp [untried (.clusterStatus (.host primary)) rfl]
  simp only [there] at ran
  rw [run_bind,run_fetchInstances script primary unasked] at ran
  rcases found : instances script primary with e | topology <;> rw [found] at ran
  · cases ran
  simp only [(listed_iff script primary _).mp listed topology found,if_true] at ran
  exact ⟨status,primary,rfl,read,rejoin_issued script primary _ host _ _ _ trivial ran⟩

theorem restart_gives_up (charm : Charm) (host : String) (other : ¬ Joinable script charm) {w : Server} {log : List Call}
    (untried : Untried log) :
    (run (respond rules script)
      (RollingManager.restartInstanceReplication (getUnitLabel charm charm.unit) host) ⟨w,log⟩).1 = .ok () ∧
    ∀ at_ host', .rejoinInstance at_ host' ∉ (run (respond rules script)
      (RollingManager.restartInstanceReplication (getUnitLabel charm charm.unit) host) ⟨w,log⟩).2.log := by
  unfold Joinable at other
  push Not at other
  obtain ⟨status,primary?,reported,read,lost⟩ := other
  have untold (c : Call) (own : restarts c = true) : c ∉ log := List.count_eq_zero.mp (untried c own)
  rw [RollingManager.restartInstanceReplication,run_bind,run_fetchPrimary script (untried _ rfl),reported]
  simp only [Except.bind,read]
  cases there : nonEmpty primary? with
  | none => exact ⟨rfl,fun at_ host' => by simp [untold (.rejoinInstance at_ host') rfl]⟩
  | some primary =>
    have unasked : (log ++ [Call.clusterSetStatus .own]).count (.clusterStatus (.host primary)) = 0 := by
      simp [untried (.clusterStatus (.host primary)) rfl]
    have unlisted := lost primary there
    rw [listed_iff] at unlisted
    push Not at unlisted
    obtain ⟨topology,found,absent⟩ := unlisted
    simp only
    rw [run_bind,run_fetchInstances script primary unasked,found]
    simp only [absent]
    exact ⟨rfl,fun at_ host' => by simp [untold (.rejoinInstance at_ host') rfl]⟩

theorem right_restarted_iff (charm : Charm) (w : Server) :
    Right charm w (.restarted script) ↔ Meets charm w (.restarted script) := by
  show ((play rules script (RollingHelper.restartCluster charm) w).1 = .ok .release →
    Rejoined script charm (play rules script (RollingHelper.restartCluster charm) w).2.log) ↔
      ((∃ host, Proceeds script charm host) → Joinable script charm)
  have checked := run_checking script charm w
  have untried (c : Call) (own : restarts c = true) := run_count_avoids rules script (checking_spares charm) own ⟨w,[]⟩
  unfold play
  rw [restartCluster_eq,run_bind]
  rcases ran : run (respond rules script) (checking charm) ⟨w,[]⟩ with ⟨e | (_ | host),w₁,log⟩ <;> rw [ran] at checked untried
  · exact ⟨fun _ ⟨host,proceeds⟩ => (nomatch (checked host).mpr proceeds),fun _ raised => nomatch raised⟩
  · exact ⟨fun _ ⟨host,proceeds⟩ => (nomatch (checked host).mpr proceeds),fun _ released => nomatch released⟩
  have proceeds := (checked host).mp rfl
  simp only [concluding]
  rw [run_bind]
  constructor
  · intro right _
    by_contra other
    obtain ⟨done,none⟩ := restart_gives_up script charm host other (w := w₁) untried
    rcases ran₂ : run (respond rules script)
      (RollingManager.restartInstanceReplication (getUnitLabel charm charm.unit) host) ⟨w₁,log⟩ with ⟨r,s⟩
    rw [ran₂] at done none right
    obtain rfl : r = .ok () := done
    obtain ⟨_,_,_,_,_,_,issued⟩ := right rfl
    exact none _ _ issued
  · intro joins released
    rcases ran₂ : run (respond rules script)
      (RollingManager.restartInstanceReplication (getUnitLabel charm charm.unit) host) ⟨w₁,log⟩ with ⟨e | done,s⟩ <;>
      rw [ran₂] at released
    · cases released
    · obtain ⟨status,primary,reported,read,issued⟩ := restart_joins script charm host (joins ⟨host,proceeds⟩) untried ran₂
      exact ⟨status,primary,host,reported,read,proceeds.address,issued⟩

/-! ### The variables -/

/-- Variables are set one after the other. -/
def persistAll : List (String × String) → Hook Unit
  | [] => pure ()
  | a :: rest => do
    InstanceClient.persist a.1 a.2
    persistAll rest

theorem setGroupTls_eq (ca cert key : String) (enable : Bool) :
    InstanceClient.setGroupTls ca cert key enable = persistAll (groupAssignments ca cert key enable) := by
  simp only [InstanceClient.setGroupTls,groupAssignments,persistAll,bind_pure_unit]

def assign (settings : String → Option String) (changes : List (String × String)) : String → Option String :=
  changes.foldl (fun settings a => update settings a.1 (some a.2)) settings

theorem run_persistAll (changes : List (String × String)) (distinct : (changes.map Prod.fst).Nodup) (w : Server)
    (log : List Call) (new : ∀ a ∈ changes, log.count (.persistVariable .own a.1 a.2) = 0) :
    (run (respond rules script) (persistAll changes) ⟨w,log⟩).1 = (settled script changes).1 ∧
      (run (respond rules script) (persistAll changes) ⟨w,log⟩).2.world.settings =
        assign w.settings (settled script changes).2 := by
  induction changes generalizing w log with
  | nil => exact ⟨rfl,rfl⟩
  | cons a rest ih =>
    obtain ⟨other,distinct⟩ := List.nodup_cons.mp distinct
    have first : log.count (.persistVariable .own a.1 a.2) = 0 := new a List.mem_cons_self
    rcases answered : script.reply (.persistVariable .own a.1 a.2) 0 with e | done
    · cases happened : script.takesEffect (.persistVariable .own a.1 a.2) 0
      · simp [persistAll,InstanceClient.persist,settled,run_bind,respond,rules,first,answered,effect,happened,assign]
      · simp [persistAll,InstanceClient.persist,settled,run_bind,respond,rules,first,answered,effect,happened,assign]
    · have later : ∀ b ∈ rest, (log ++ [Call.persistVariable .own a.1 a.2]).count (.persistVariable .own b.1 b.2) = 0 := by
        intro b member
        have apart : a.1 ≠ b.1 := fun same => other (same ▸ List.mem_map_of_mem member)
        simp [new b (List.mem_cons_of_mem _ member),apart]
      have rests := ih distinct { w with settings := update w.settings a.1 (some a.2) } _ later
      rw [persistAll,run_bind,InstanceClient.persist,run_perform]
      simpa [settled,respond,rules,first,answered,effect,assign] using rests

theorem settled_sublist (changes : List (String × String)) : (settled script changes).2.Sublist changes := by
  induction changes with
  | nil => exact List.Sublist.refl _
  | cons a rest ih =>
    rcases answered : script.reply (.persistVariable .own a.1 a.2) 0 with e | done
    · simp only [settled,answered]
      split
      · simp
      · exact List.nil_sublist _
    · simpa [settled,answered] using ih

theorem assign_other {changes : List (String × String)} {name : String} (other : name ∉ changes.map Prod.fst)
    (settings : String → Option String) : assign settings changes name = settings name := by
  induction changes generalizing settings with
  | nil => rfl
  | cons a rest ih =>
    obtain ⟨apart,other⟩ := not_or.mp (fun member => other (List.mem_cons.mpr member))
    exact (ih other _).trans (Function.update_of_ne apart _ _)

theorem assign_own {changes : List (String × String)} (distinct : (changes.map Prod.fst).Nodup) {a : String × String}
    (member : a ∈ changes) (settings : String → Option String) : assign settings changes a.1 = some a.2 := by
  induction changes generalizing settings with
  | nil => cases member
  | cons b rest ih =>
    obtain ⟨other,distinct⟩ := List.nodup_cons.mp distinct
    rcases List.mem_cons.mp member with rfl | later
    · exact (assign_other other _).trans (Function.update_self _ _ _)
    · exact ih distinct later _

/-- A variable changes exactly when it is set to another value. -/
theorem assign_changes_iff {changes : List (String × String)} {names : List String} (own : changes.map Prod.fst = names)
    (distinct : names.Nodup) (settings : String → Option String) :
    (∃ name ∈ names, assign settings (settled script changes).2 name ≠ settings name) ↔
      ∃ a ∈ (settled script changes).2, settings a.1 ≠ some a.2 := by
  have sub := (settled_sublist script changes).map Prod.fst
  rw [own] at sub
  have apart := distinct.sublist sub
  constructor
  · rintro ⟨name,_,changed⟩
    by_cases set_ : name ∈ (settled script changes).2.map Prod.fst
    · obtain ⟨a,member,rfl⟩ := List.mem_map.mp set_
      rw [assign_own apart member] at changed
      exact ⟨a,member,fun same => changed same.symm⟩
    · exact absurd (assign_other set_ settings) changed
  · rintro ⟨a,member,other⟩
    refine ⟨a.1,sub.subset (List.mem_map_of_mem member),?_⟩
    rw [assign_own apart member]
    exact fun same => other same.symm

theorem setGroupTls_sets (ca cert key : String) (enable : Bool) :
    Avoids (fun c => stage c ≠ 4) (InstanceClient.setGroupTls ca cert key enable) := by
  rw [setGroupTls_eq]
  induction groupAssignments ca cert key enable with
  | nil => trivial
  | cons a rest ih => exact avoids_bind (avoids_ask (by simp [stage])) fun _ => ih

theorem run_setGroupTls (ca cert key : String) (enable : Bool) {w : Server} {s : Scene Server Call}
    (unset : Unset w s) :
    (run (respond rules script) (InstanceClient.setGroupTls ca cert key enable) s).1 =
        (settled script (groupAssignments ca cert key enable)).1 ∧
      (Changed w (run (respond rules script) (InstanceClient.setGroupTls ca cert key enable) s).2.world ↔
        NewValues script w (groupAssignments ca cert key enable)) := by
  obtain ⟨new,same⟩ := unset
  have distinct : groupTlsVariables.Nodup := by decide
  obtain ⟨ends,settings⟩ := run_persistAll script (groupAssignments ca cert key enable) distinct s.world s.log
    fun a _ => new a.1 a.2
  rw [setGroupTls_eq]
  refine ⟨ends,?_⟩
  rw [Changed,settings,same]
  exact assign_changes_iff script (rfl : (groupAssignments ca cert key enable).map Prod.fst = groupTlsVariables) distinct
    w.settings

/-! ### A handling of certificate-available -/

theorem calm_status (status : Status) : Avoids (fun c => stage c = 4) (setUnitStatus status) :=
  avoids_mono (fun _ at_ => loud_stage (.inr at_)) (quiet_setUnitStatus status)

theorem calm_report : Avoids (fun c => stage c = 4) (do setUnitStatus (← buildUnitStatus) : Hook Unit) :=
  avoids_bind (avoids_mono (fun _ at_ => loud_stage (.inr at_)) quiet_buildUnitStatus) fun _ => calm_status _

theorem changed_run {α : Type} {p : Hook α} (calm : Avoids (fun c => stage c = 4) p) (w : Server) (s : Scene Server Call) :
    Changed w (run (respond rules script) p s).2.world ↔ Changed w s.world := by
  rw [Changed,settings_run script calm s,Changed]

theorem shownAgain_iff (status : Status) {s : Scene Server Call} (once : s.log.count .refreshing = 1)
    (unset : s.log.count (.setUnitStatus status) = 0) :
    (run (respond rules script) (setUnitStatus status) s).1 = .ok () ↔ ShownAgain script status := by
  rcases refreshing : script.reply .refreshing 1 with e | (_ | _)
  · simp [setUnitStatus,ShownAgain,run_bind,respond,rules,once,refreshing]
  · simp [setUnitStatus,ShownAgain,run_bind,respond,rules,once,unset,refreshing]
  · simp [setUnitStatus,ShownAgain,run_bind,respond,rules,once,refreshing]

theorem buildUnitStatus_asks : Avoids (fun c => stage c ≠ 5 ∨ ∃ status, c = .setUnitStatus status) buildUnitStatus := by
  have asked {c : Call} (at_ : stage c = 5) (other : ∀ status, c ≠ .setUnitStatus status) :
      Avoids (fun c => stage c ≠ 5 ∨ ∃ status, c = .setUnitStatus status) (ask c) :=
    avoids_ask (by simp [at_,other])
  have status {α : Type} (f : ClusterReport → α) : Avoids (fun c => stage c ≠ 5 ∨ ∃ status, c = .setUnitStatus status)
      ((ask (.clusterStatus .own)).tryElse Exn.isExecutionError (fun _ => pure none) fun status => pure (some (f status))) :=
    avoids_tryElse (asked rfl (by simp)) (fun _ => trivial) fun _ => trivial
  refine avoids_bind (asked rfl (by simp)) fun _ => avoids_bind (asked rfl (by simp)) fun _ => ?_
  refine avoids_ite _ (fun _ => trivial) fun _ => avoids_ite _ (fun _ => trivial) fun _ => ?_
  refine avoids_bind (status _) fun _ => avoids_bind (status _) fun _ => ?_
  split <;> trivial

theorem buildUnitStatus_other : Triple rules script (fun _ => True) buildUnitStatus
    (fun status _ => status ≠ .maintenance "Enabling TLS") := by
  refine triple_bind (triple_any _) fun role => triple_bind (triple_any _) fun state => ?_
  split
  · exact triple_ret fun _ _ => by decide
  split
  · exact triple_ret fun _ _ => by decide
  refine triple_bind (triple_any _) fun clusterRole => triple_bind (triple_any _) fun clusterState => ?_
  split
  · exact triple_ret fun _ _ => by decide
  · exact triple_ret fun _ _ => by simp
  · exact triple_ret fun _ _ => by decide

theorem report_returns_iff {s : Scene Server Call} (once : s.log.count .refreshing = 1) (fresh : Fresh 5 s) :
    (run (respond rules script) (do setUnitStatus (← buildUnitStatus)) s).1 = .ok () ↔
      ∃ status, (play rules script buildUnitStatus ⟨[],fun _ => none⟩).1 = .ok status ∧ ShownAgain script status := by
  have built : (run (respond rules script) buildUnitStatus s).1 =
      (play rules script buildUnitStatus ⟨[],fun _ => none⟩).1 := by
    refine run_agrees rules script (fun _ _ _ _ => rfl) buildUnitStatus_asks fun c asked => ?_
    exact fresh c (Nat.le_of_eq (Decidable.not_not.mp (not_or.mp asked).1).symm)
  have other := buildUnitStatus_other script s
  have once' := run_count_avoids rules script buildUnitStatus_asks (c := .refreshing) (.inl (by decide)) s
  have unset (status : Status) := run_count_avoids rules script buildUnitStatus_asks (c := .setUnitStatus status)
    (.inr ⟨status,rfl⟩) s
  rw [← built,run_bind]
  rcases ran : run (respond rules script) buildUnitStatus s with ⟨e | status,s'⟩ <;> rw [ran] at once' unset
  · simp
  · have new : s'.log.count (.setUnitStatus status) = 0 :=
      (unset status).trans (fresh _ (by simp [stage,other status s' trivial ran]))
    simp only [shownAgain_iff script status (once'.trans once) new,Except.ok.injEq,exists_eq_left']

/-- How enabling the peer TLS ends, and what it changes. -/
theorem enabling_ends (s : Substrate) (data : TLSData) {w : Server} (scene : Scene Server Call)
    (once : scene.log.count .refreshing = 1) (fresh : Fresh 4 scene) (same : scene.world.settings = w.settings) :
    ((run (respond rules script) (enabling s .peer data) scene).1 = .ok () ↔
        Closes script (settled script (enabledAssignments s data)).1) ∧
      (Changed w (run (respond rules script) (enabling s .peer data) scene).2.world ↔
        NewValues script w (enabledAssignments s data)) := by
  obtain ⟨ends,changed⟩ := run_setGroupTls script (arguments s .peer data).1 (arguments s .peer data).2.1
    (arguments s .peer data).2.2 true (w := w) (s := scene) ⟨fun name value => fresh _ (Nat.le_refl _),same⟩
  have once' := run_count_avoids rules script (c := .refreshing) (setGroupTls_sets (arguments s .peer data).1
    (arguments s .peer data).2.1 (arguments s .peer data).2.2 true) (by decide) scene
  have fresh' : Fresh 5 (run (respond rules script) (InstanceClient.setGroupTls (arguments s .peer data).1
      (arguments s .peer data).2.1 (arguments s .peer data).2.2 true) scene).2 := fun c at_ =>
    (run_count_avoids rules script (setGroupTls_sets _ _ _ true) (fun four => absurd at_ (by simp [four])) scene).trans
      (fresh c (Nat.le_trans (by decide) at_))
  rw [enabling,run_tryElse,enable]
  rcases ran : run (respond rules script) (InstanceClient.setGroupTls (arguments s .peer data).1
    (arguments s .peer data).2.1 (arguments s .peer data).2.2 true) scene with ⟨e | done,scene'⟩ <;>
    rw [ran] at ends changed once' fresh'
  · rw [enabledAssignments,← ends]
    simp only
    split
    · rename_i caught
      refine ⟨?_,(changed_run script (calm_status _) w scene').trans changed⟩
      rw [shownAgain_iff script _ (once'.trans once) (fresh' _ (by decide)),Closes,and_iff_right caught]
    · rename_i uncaught
      exact ⟨⟨fun raised => (by cases raised),fun closes => absurd closes.1 uncaught⟩,changed⟩
  · rw [enabledAssignments,← ends]
    exact ⟨report_returns_iff script (once'.trans once) fresh',(changed_run script calm_report w scene').trans changed⟩

theorem not_down_of_runs {s : Substrate} (runs : Runs script s) : ¬ Down script s := by
  intro down
  cases s with
  | vm =>
    obtain ⟨present,active⟩ := runs
    rcases down with absent | ⟨_,stopped⟩
    · cases present.symm.trans absent
    · cases active.symm.trans stopped
  | k8s =>
    obtain ⟨connects,service⟩ := runs
    rcases down with unconnected | ⟨_,other,stopped,different⟩
    · cases connects.symm.trans unconnected
    · exact different (Except.ok.inj (stopped.symm.trans service))

theorem not_deferred_of_reaches {s : Substrate} {data : TLSData} (reaches : Reaches script s .peer data) :
    ¬ Deferred script s .peer := by
  rintro ⟨_,down | ⟨_,_,a,e,answered,failed,_⟩⟩
  · exact not_down_of_runs script reaches.runs down
  · obtain ⟨a',answered',rfl⟩ := reaches.assigned
    obtain rfl := Except.ok.inj (answered'.symm.trans answered)
    simp [saveFailure,failure_of_saved script reaches.ca,failure_of_saved script reaches.cert,
      failure_of_saved script reaches.key] at failed

theorem base_certificateAvailable (charm : Charm) (w : Server) :
    ((run (respond rules script) (TLSEventHandler.onCertificateAvailable .peer charm) ⟨{ w with written := [] },[]⟩).1 =
        .ok () ↔ Returns script charm.substrate) ∧
      (Changed w (run (respond rules script) (TLSEventHandler.onCertificateAvailable .peer charm)
        ⟨{ w with written := [] },[]⟩).2.world ↔ Enables script charm.substrate w) := by
  rcases onCertificateAvailable_cases script .peer charm { w with written := [] } with
    ⟨data,log,reaches,once,fresh,ran⟩ | ⟨never,ends,unset⟩
  · obtain ⟨returns,changed⟩ := enabling_ends script charm.substrate data (w := w)
      ⟨{ w with written := [] ++ filesOf charm.substrate .peer data },log⟩ once fresh rfl
    have only {P : TLSData → Prop} : (∃ other, Reaches script charm.substrate .peer other ∧ P other) ↔ P data := by
      refine ⟨fun ⟨other,reaches',holds⟩ => ?_,fun holds => ⟨data,reaches,holds⟩⟩
      obtain rfl := data_unique reaches reaches'
      exact holds
    rw [ran,returns,changed,Returns,Enables,only,only,or_iff_right (not_deferred_of_reaches script reaches)]
    exact ⟨Iff.rfl,Iff.rfl⟩
  · have none {P : TLSData → Prop} : ¬ ∃ other, Reaches script charm.substrate .peer other ∧ P other :=
      fun ⟨other,reaches,_⟩ => never other reaches
    rw [ends,Returns,Enables,or_iff_left none,iff_false_right none]
    exact ⟨Iff.rfl,fun ⟨name,_,changed⟩ => changed (congrFun unset.2 name)⟩

theorem unrequested_quiet {α : Type} {p : Hook α} (quiet : Avoids Loud p) : Avoids (· = .requestLock clusterCallback) p :=
  avoids_mono (fun _ same => by rw [same]; rfl) quiet

theorem unrequested_sets (ca cert key : String) (enable : Bool) :
    Avoids (· = .requestLock clusterCallback) (InstanceClient.setGroupTls ca cert key enable) :=
  avoids_mono (fun _ same => by simp [same,stage]) (setGroupTls_sets ca cert key enable)

theorem unrequested_report : Avoids (· = .requestLock clusterCallback) (do setUnitStatus (← buildUnitStatus) : Hook Unit) :=
  unrequested_quiet (avoids_bind quiet_buildUnitStatus fun _ => quiet_setUnitStatus _)

theorem unrequested_certificate (charm : Charm) : Avoids (· = .requestLock clusterCallback)
    (TLSEventHandler.onCertificateAvailable .peer charm) := by
  refine avoids_bind (unrequested_quiet (quiet_running _)) fun _ => ?_
  refine avoids_ite _ (fun _ => ?_) fun _ => avoids_ask (by simp)
  refine avoids_bind (unrequested_quiet (quiet_setUnitStatus _)) fun _ => ?_
  refine avoids_bind (avoids_bind (avoids_ask (by simp)) fun _ => trivial) fun data => ?_
  refine avoids_tryElse (avoids_saveFiles (by simp) _ _ data) (fun _ => avoids_ask (by simp)) fun _ => ?_
  exact avoids_tryElse (unrequested_sets _ _ _ _) (fun _ => unrequested_quiet (quiet_setUnitStatus _))
    fun _ => unrequested_report

theorem unrequested_broken (charm : Charm) : Avoids (· = .requestLock clusterCallback)
    (TLSEventHandler.onRelationBroken .peer charm) :=
  avoids_onRelationBroken (fun _ same => by rw [same]; rfl) (fun c disabling same => by simp [same,disables] at disabling)
    .peer charm

theorem handle_certificateAvailable (charm : Charm) (w : Server) :
    (.requestLock clusterCallback ∈ (handle .peer charm w ⟨.certificateAvailable,script⟩).log ↔
        Returns script charm.substrate) ∧
      (Changed w (handle .peer charm w ⟨.certificateAvailable,script⟩).world ↔ Enables script charm.substrate w) := by
  have unrequested := run_log_avoids rules script (unrequested_certificate charm) rfl ⟨{ w with written := [] },[]⟩
  obtain ⟨returns,changed⟩ := base_certificateAvailable script charm w
  rw [← returns,← changed]
  unfold TlsFiles.handle play Event.handler onCertificateAvailable TLSPeerEventHandler.onCertificateAvailable
  simp only
  rw [run_bind]
  rcases ran : run (respond rules script) (TLSEventHandler.onCertificateAvailable .peer charm)
    ⟨{ w with written := [] },[]⟩ with ⟨e | done,s⟩ <;> rw [ran] at unrequested
  · simpa using unrequested
  · refine ⟨⟨fun _ => rfl,fun _ => ?_⟩,changed_run script (avoids_ask (by simp [stage])) w s⟩
    simp [respond]

theorem handle_relationBroken (charm : Charm) (w : Server) :
    .requestLock clusterCallback ∉ (handle .peer charm w ⟨.relationBroken,script⟩).log ∧
      (Changed w (handle .peer charm w ⟨.relationBroken,script⟩).world ↔ Disables script charm.substrate w) := by
  constructor
  · exact fun requested => absurd ((run_log_avoids rules script (unrequested_broken charm) rfl _).mp requested)
      List.not_mem_nil
  have start : Unset w ⟨{ w with written := [] },[]⟩ := ⟨fun _ _ => rfl,rfl⟩
  have same {s : Scene Server Call} (unset : Unset w s) : ¬ Changed w s.world :=
    fun ⟨name,_,changed⟩ => changed (congrFun unset.2 name)
  have running := (run_running script charm.substrate { w with written := [] }).1
  have fresh := fresh_run script (early_running charm.substrate) (s := ⟨{ w with written := [] },[]⟩) fun _ _ => rfl
  have unset₁ := unset_run script (avoids_stage (by decide) (early_running charm.substrate)) start
  unfold TlsFiles.handle play Event.handler TLSEventHandler.onRelationBroken
  simp only
  rw [run_bind]
  rcases ran₁ : run (respond rules script) (ServerService.running charm.substrate) ⟨{ w with written := [] },[]⟩ with
    ⟨e | runs,s₁⟩ <;> rw [ran₁] at running fresh unset₁
  · refine iff_of_false (same unset₁) fun disables => ?_
    cases running.mpr disables.runs
  cases runs with
  | false =>
    refine iff_of_false (same (unset_run script (avoids_ask (by simp [stage])) unset₁)) fun disables => ?_
    cases running.mpr disables.runs
  | true =>
    have shown := shown_iff script (.maintenance "Disabling TLS") fresh
    have unset₂ := unset_run script (calm_status (.maintenance "Disabling TLS")) unset₁
    simp only [if_true]
    rw [run_bind]
    rcases ran₂ : run (respond rules script) (setUnitStatus (.maintenance "Disabling TLS")) s₁ with ⟨e | done,s₂⟩ <;>
      rw [ran₂] at shown unset₂
    · refine iff_of_false (same unset₂) fun disables => ?_
      cases shown.mpr disables.shown
    have changed := (run_setGroupTls script "" "" "" false unset₂).2
    have closing : Avoids (fun c => stage c = 4) (do
        if ← isLeader then deletePrivateKeyUri .peer
        setUnitStatus (← buildUnitStatus) : Hook Unit) := by
      refine avoids_bind (avoids_ask (by simp [stage])) fun _ => ?_
      split
      · exact avoids_bind (avoids_ask (by simp [stage])) fun _ => calm_report
      · exact calm_report
    simp only
    rw [run_tryElse,disable]
    have disables : Disables script charm.substrate w ↔ NewValues script w disabledAssignments :=
      ⟨Disables.values,fun values => ⟨running.mp rfl,shown.mp rfl,values⟩⟩
    rw [disables,disabledAssignments,← changed]
    rcases ran₃ : run (respond rules script) (InstanceClient.setGroupTls "" "" "" false) s₂ with ⟨e | done',s₃⟩
    · simp only
      split
      · exact changed_run script (calm_status _) w s₃
      · exact Iff.rfl
    · exact changed_run script closing w s₃

end

/-- What one step has to find is exactly what it needs. -/
theorem right_iff (charm : Charm) (w : Server) (step : Step) : Right charm w step ↔ Meets charm w step := by
  cases step with
  | handled h =>
    obtain ⟨_ | _,script⟩ := h
    · obtain ⟨requests,changes⟩ := handle_certificateAvailable script charm w
      exact iff_congr requests changes
    · obtain ⟨unrequested,changes⟩ := handle_relationBroken script charm w
      show (_ ↔ _) ↔ _
      rw [changes]
      simp [unrequested,Meets]
  | restarted script => exact right_restarted_iff script charm w

/-- The restarts are the ones that are needed exactly in the runs in which every step
    finds what it has to. -/
theorem along_right_iff (charm : Charm) (w : Server) (steps : List Step) :
    Along charm (Right charm) w steps ↔ Along charm (Meets charm) w steps := by
  induction steps generalizing w with
  | nil => exact Iff.rfl
  | cons step rest ih => exact and_congr (right_iff charm w step) (ih _)

/-- A server that runs, and calls that all succeed. -/
def runningScript : Script Call Reply Exn where
  reply c _ := match c with
    | .snapPresent => .ok true
    | .snapServiceActive => .ok true
    | _ => .ok default
  takesEffect _ _ := false

/-- Disabling the peer TLS changes the variables, and no restart is asked for. -/
theorem disabled_unrestarted :
    ¬ ∀ (charm : Charm) (w : Server) (steps : List Step), Along charm (Right charm) w steps := by
  intro always
  have right := (always ⟨.vm,"mysql",0,"cluster-set","10.0.0.10"⟩ ⟨[],fun _ => some "REQUIRED"⟩
    [.handled ⟨.relationBroken,runningScript⟩]).1
  have requested := right.mpr ⟨"group_replication_ssl_mode",by decide,by decide⟩
  exact absurd requested (by decide +kernel)

end MysqlOperators.TlsRestarts
