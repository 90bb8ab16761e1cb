import MysqlOperators.Quiet
import MysqlOperators.Scripted

/-!
Recovery from a complete outage. All units are OFFLINE, each with its own set of
transactions, and the leader handles a self-healing event. The world records the
unit from which the cluster was brought back, by a reboot or by creating it anew.
-/
namespace MysqlOperators.Outage
open MysqlOperators.Program MysqlOperators.Program.Prog MysqlOperators.External MysqlOperators.Clients
open MysqlOperators.Helpers MysqlOperators.SelfHealing MysqlOperators.Quiet MysqlOperators.Scripted
set_option linter.unusedSimpArgs false

/-- The unit that runs the handler, and the one that the cluster was brought back from. -/
structure Source where
  me : UnitId
  source : Option UnitId
deriving DecidableEq, Repr

def effect (w : Source) : (c : Call) → Except Exn (Reply c) → Bool → Source
  | .rebootCluster .own, .ok _, _ => { w with source := some w.me }
  | .createCluster .own, .ok _, _ => { w with source := some w.me }
  | _, _, _ => w

def rules : Rules Source Call Reply Exn := ⟨fun _ _ r => r,effect⟩

section
variable {T : Type}

/-- The unit holds every transaction of the others. -/
def Includes (units : List UnitId) (txs : UnitId → Set T) (u : UnitId) : Prop := ∀ v ∈ units, txs v ⊆ txs u

/-- If a run returns after a recovery, the source of the cluster has lost no transaction. -/
def Lossless (units : List UnitId) (txs : UnitId → Set T) (ended : Except Exn Unit × Scene Source Call) : Prop :=
  ended.1 = .ok () → ∀ u, ended.2.world.source = some u → Includes units txs u

def NoLoss (units : List UnitId) (txs : UnitId → Set T) (script : Script Call Reply Exn) (charm : Charm) : Prop :=
  Lossless units txs (play rules script (recoverFromOfflineLeader charm) ⟨charm.unit,none⟩)

/-- A reboot succeeds only from a unit that holds the transactions of the others. -/
def RebootChecks (units : List UnitId) (txs : UnitId → Set T) (script : Script Call Reply Exn) (u : UnitId) : Prop :=
  script.reply (.rebootCluster .own) 0 = .ok () → Includes units txs u

end

/-! ### When the handler falls back -/

abbrev countCall : Call := .searchMembers .own [.online]
abbrev stopCall : Call := .stopReplication .own
abbrev unreachableCall : Call := .searchMembers .own [.unreachable]
abbrev rebootCall : Call := .rebootCluster .own

/-- The published states and the local view let a recovery begin. -/
def Begins (script : Script Call Reply Exn) : Prop :=
  (∃ peers, script.reply .peersRelation 0 = .ok peers ∧
    (peerStatesOf peers).contains InstanceState.online.value = false ∧ outageStates (peerStatesOf peers) = true) ∧
  match script.reply countCall 0 with
  | .ok members => members = []
  | .error e => e.isExecutionError = true

/-- Counting the UNREACHABLE members and rebooting ends with a `RuntimeError`. -/
def QuorumFails (script : Script Call Reply Exn) : Prop :=
  match script.reply unreachableCall 0 with
  | .ok members => members = [] ∧ ∃ e, script.reply rebootCall 0 = .error e ∧ e.isRuntimeError = true
  | .error e =>
    if e.isExecutionError then ∃ e, script.reply rebootCall 0 = .error e ∧ e.isRuntimeError = true
    else e.isRuntimeError = true

/-- The recovery of the quorum ends with a `RuntimeError`. -/
def RecoveryFails (script : Script Call Reply Exn) : Prop :=
  match script.reply stopCall 0 with
  | .ok _ => QuorumFails script
  | .error e => if e.isExecutionError then QuorumFails script else e.isRuntimeError = true

/-- The calls of `recreate_cluster`. -/
def recreateCalls (label : String) : List Call :=
  [.dropMetadata .own,.executeSql .own .lockTableCreation,.createCluster .own,
   .updateInstance .own "label" label,.createClusterSet .own,.rescanCluster .own]

/-- The cluster is recreated from the leader's own data. -/
def FallbackCompletes (script : Script Call Reply Exn) (charm : Charm) : Prop :=
  Begins script ∧ RecoveryFails script ∧
    ∀ c ∈ recreateCalls (getUnitLabel charm charm.unit), ∃ a, script.reply c 0 = .ok a

theorem source_of_avoids (script : Script Call Reply Exn) {α : Type} {p : Hook α}
    (avoids : Avoids (fun c => c = .rebootCluster .own ∨ c = .createCluster .own) p) (s : Scene Source Call) :
    (run (respond rules script) p s).2.world = s.world := by
  refine run_keeps rules script id (fun w c r b other => ?_) avoids s
  simp only [rules,id]
  unfold effect
  split <;> simp at other ⊢

theorem loud_source {c : Call} (h : c = .rebootCluster .own ∨ c = .createCluster .own) : Loud c := by
  rcases h with rfl | rfl <;> rfl

/-! ### The steps of the handler -/

theorem recreateCluster_eq (label : String) : SelfHealing.recreateCluster label = steps (recreateCalls label) := by
  simp [SelfHealing.recreateCluster,Clients.recreateCluster,ClusterClient.dropMetadata,ClusterClient.initLocksTable,
    ClusterClient.create,ClusterSetClient.create,ClusterClient.rescan,recreateCalls,steps]

/-- How a reboot ends, and `true` when it brings the cluster back. -/
def rebootEnds (script : Script Call Reply Exn) : Except Exn Bool := (script.reply rebootCall 0).map (fun _ => true)

def quorumEnds (script : Script Call Reply Exn) : Except Exn Bool :=
  match script.reply unreachableCall 0 with
  | .ok [] => rebootEnds script
  | .ok (_ :: _) => .ok false
  | .error e => if e.isExecutionError then rebootEnds script else .error e

def recoveryEnds (script : Script Call Reply Exn) : Except Exn Bool :=
  match script.reply stopCall 0 with
  | .ok _ => quorumEnds script
  | .error e => if e.isExecutionError then quorumEnds script else .error e

theorem recoveryFails_iff (script : Script Call Reply Exn) :
    RecoveryFails script ↔ ∃ e, recoveryEnds script = .error e ∧ e.isRuntimeError = true := by
  have reboot : (∃ e, script.reply rebootCall 0 = .error e ∧ e.isRuntimeError = true) ↔
      ∃ e, rebootEnds script = .error e ∧ e.isRuntimeError = true := by
    unfold rebootEnds
    rcases script.reply rebootCall 0 with e | u <;> simp [Except.map]
  have quorum : QuorumFails script ↔ ∃ e, quorumEnds script = .error e ∧ e.isRuntimeError = true := by
    unfold QuorumFails quorumEnds
    rcases script.reply unreachableCall 0 with e | members
    · by_cases caught : e.isExecutionError = true <;> simp [caught,reboot]
    · cases members <;> simp [reboot]
  unfold RecoveryFails recoveryEnds
  rcases script.reply stopCall 0 with e | u
  · by_cases caught : e.isExecutionError = true <;> simp [caught,quorum]
  · simp [quorum]

theorem recoveryEnds_reboot {script : Script Call Reply Exn} (back : recoveryEnds script = .ok true) :
    script.reply rebootCall 0 = .ok () := by
  have reboot : rebootEnds script = .ok true → script.reply rebootCall 0 = .ok () := by
    unfold rebootEnds
    rcases script.reply rebootCall 0 with e | u <;> simp [Except.map]
  have quorum : quorumEnds script = .ok true → script.reply rebootCall 0 = .ok () := by
    unfold quorumEnds
    split
    · exact reboot
    · simp
    · split
      · exact reboot
      · simp
  revert back
  unfold recoveryEnds
  split
  · exact quorum
  · split
    · exact quorum
    · simp

/-- The source once the recovery has ended. -/
def Source.after (w : Source) : Except Exn Bool → Source
  | .ok true => { w with source := some w.me }
  | _ => w

theorem recovery_total (script : Script Call Reply Exn) (s : Scene Source Call)
    (unused : ∀ c ∈ [stopCall,unreachableCall,rebootCall], s.log.count c = 0) :
    ∃ log, (∀ c ∈ log, c ∈ [stopCall,unreachableCall,rebootCall]) ∧
      run (respond rules script) (do stopReplication; recoverClusterQuorum : Hook Unit) s =
        ((recoveryEnds script).map (fun _ => ()),⟨s.world.after (recoveryEnds script),s.log ++ log⟩) := by
  obtain ⟨w,log⟩ := s
  have noStop := unused stopCall (by simp)
  have noCount := unused unreachableCall (by simp)
  have noReboot := unused rebootCall (by simp)
  simp only at noStop noCount noReboot
  have reboot : ∀ before : List Call, before.count rebootCall = 0 →
      run (respond rules script) ClusterClient.reboot ⟨w,before⟩ =
        ((rebootEnds script).map (fun _ => ()),⟨w.after (rebootEnds script),before ++ [rebootCall]⟩) := by
    intro before none
    rcases h : script.reply rebootCall 0 with e | u <;>
      simp [ClusterClient.reboot,respond,rules,effect,none,rebootEnds,h,Except.map,Source.after]
  have quorum : ∀ before : List Call, before.count unreachableCall = 0 → before.count rebootCall = 0 →
      ∃ later, (∀ c ∈ later, c ∈ [stopCall,unreachableCall,rebootCall]) ∧
        run (respond rules script) recoverClusterQuorum ⟨w,before⟩ =
          ((quorumEnds script).map (fun _ => ()),⟨w.after (quorumEnds script),before ++ later⟩) := by
    intro before noCount noReboot
    have next := reboot (before ++ [unreachableCall]) (by simp [noReboot])
    rcases h : script.reply unreachableCall 0 with e | members
    · by_cases caught : e.isExecutionError = true
      · refine ⟨[unreachableCall,rebootCall],by simp,?_⟩
        simpa [recoverClusterQuorum,InstanceClient.countClusterMembers,run_bind,run_tryElse,respond,rules,effect,
          noCount,h,caught,quorumEnds] using next
      · refine ⟨[unreachableCall],by simp,?_⟩
        simp [recoverClusterQuorum,InstanceClient.countClusterMembers,run_bind,run_tryElse,respond,rules,effect,
          noCount,h,caught,quorumEnds,Except.map,Source.after]
    · cases members with
      | nil =>
        refine ⟨[unreachableCall,rebootCall],by simp,?_⟩
        simpa [recoverClusterQuorum,InstanceClient.countClusterMembers,run_bind,run_tryElse,respond,rules,effect,
          noCount,h,quorumEnds] using next
      | cons m rest =>
        refine ⟨[unreachableCall],by simp,?_⟩
        simp [recoverClusterQuorum,InstanceClient.countClusterMembers,run_bind,run_tryElse,respond,rules,effect,
          noCount,h,quorumEnds,Except.map,Source.after]
  obtain ⟨later,members,next⟩ := quorum (log ++ [stopCall]) (by simp [noCount]) (by simp [noReboot])
  rcases h : script.reply stopCall 0 with e | u
  · by_cases caught : e.isExecutionError = true
    · refine ⟨stopCall :: later,by simpa using members,?_⟩
      simpa [stopReplication,InstanceClient.stopReplication,run_bind,run_tryExcept,respond,rules,effect,noStop,h,caught,
        recoveryEnds] using next
    · refine ⟨[stopCall],by simp,?_⟩
      simp [stopReplication,InstanceClient.stopReplication,run_bind,run_tryExcept,respond,rules,effect,noStop,h,caught,
        recoveryEnds,Except.map,Source.after]
  · refine ⟨stopCall :: later,by simpa using members,?_⟩
    simpa [stopReplication,InstanceClient.stopReplication,run_bind,run_tryExcept,respond,rules,effect,noStop,h,
      recoveryEnds] using next

theorem recreate_total (script : Script Call Reply Exn) (label : String) (s : Scene Source Call)
    (unused : ∀ c ∈ recreateCalls label, s.log.count c = 0) :
    ((run (respond rules script) (SelfHealing.recreateCluster label) s).1 = .ok () ↔
      ∀ c ∈ recreateCalls label, ∃ a, script.reply c 0 = .ok a) ∧
    ((run (respond rules script) (SelfHealing.recreateCluster label) s).1 = .ok () →
      (run (respond rules script) (SelfHealing.recreateCluster label) s).2.world.source = some s.world.me) := by
  rw [recreateCluster_eq]
  refine ⟨run_steps_ok_iff rules script (fun _ _ _ _ => rfl) (by simp [recreateCalls]) s unused,fun done => ?_⟩
  have created : (run (respond rules script) (steps (recreateCalls label)) s).2.world.source =
      some (run (respond rules script) (steps (recreateCalls label)) s).2.world.me :=
    run_steps_establishes rules script (P := fun w => w.source = some w.me) (c := .createCluster .own)
      (by simp [recreateCalls]) (fun _ _ _ => rfl)
      (fun w d r b holds => by simp only [rules]; unfold effect; split <;> first | rfl | exact holds) s done
  have same : (run (respond rules script) (steps (recreateCalls label)) s).2.world.me = s.world.me :=
    run_keeps rules script Source.me
      (fun w c r b _ => by simp only [rules]; unfold effect; split <;> rfl) (avoids_of_never _) s
  rw [created,same]

/-! ### The handler -/

section
variable {T : Type} {units : List UnitId} {txs : UnitId → Set T}

theorem lossless_of_none {ended : Except Exn Unit × Scene Source Call} (none : ended.2.world.source = none) :
    Lossless units txs ended := by
  intro _ u same
  rw [none] at same
  cases same

/-- The recovery with its fallback, once it has begun. -/
theorem tail_lossless_iff (script : Script Call Reply Exn) (charm : Charm)
    (checks : RebootChecks units txs script charm.unit) (log : List Call)
    (unused : ∀ c ∈ [stopCall,unreachableCall,rebootCall], log.count c = 0)
    (new : ∀ c ∈ recreateCalls (getUnitLabel charm charm.unit), log.count c = 0) :
    Lossless units txs (run (respond rules script)
      ((do stopReplication; recoverClusterQuorum : Hook Unit).tryElse Exn.isRuntimeError
        (fun _ => SelfHealing.recreateCluster (getUnitLabel charm charm.unit)) (fun _ => setBuiltStatuses))
      ⟨⟨charm.unit,none⟩,log⟩) ↔
      Includes units txs charm.unit ∨ ¬ (RecoveryFails script ∧
        ∀ c ∈ recreateCalls (getUnitLabel charm charm.unit), ∃ a, script.reply c 0 = .ok a) := by
  obtain ⟨later,members,total⟩ := recovery_total script ⟨⟨charm.unit,none⟩,log⟩ unused
  rw [run_tryElse,total,recoveryFails_iff]
  rcases h : recoveryEnds script with e | back
  · by_cases caught : e.isRuntimeError = true
    · have fresh : ∀ c ∈ recreateCalls (getUnitLabel charm charm.unit), (log ++ later).count c = 0 := by
        intro c member
        have other : c ∉ later := by
          intro earlier
          have := members c earlier
          simp only [recreateCalls,List.mem_cons,List.not_mem_nil,or_false] at member
          rcases member with rfl | rfl | rfl | rfl | rfl | rfl <;> simp at this
        simp [new c member,List.count_eq_zero.mpr other]
      obtain ⟨succeeds,sourced⟩ :=
        recreate_total script (getUnitLabel charm charm.unit) ⟨⟨charm.unit,none⟩,log ++ later⟩ fresh
      have fails : ∃ e', (Except.error e : Except Exn Bool) = .error e' ∧ e'.isRuntimeError = true := ⟨e,rfl,caught⟩
      simp only [Except.map,Source.after,caught,if_true,fails,true_and]
      rw [← succeeds]
      constructor
      · intro lossless
        by_cases done : (run (respond rules script) (SelfHealing.recreateCluster (getUnitLabel charm charm.unit))
          ⟨⟨charm.unit,none⟩,log ++ later⟩).1 = .ok ()
        · exact .inl (lossless done charm.unit (sourced done))
        · exact .inr done
      · rintro (includes | failed) done u same
        · rw [sourced done] at same
          cases same
          exact includes
        · exact absurd done failed
    · have other : ¬ ∃ e', (Except.error e : Except Exn Bool) = .error e' ∧ e'.isRuntimeError = true := by
        rintro ⟨e',same,caught'⟩; cases same; exact caught caught'
      simp only [Except.map,Source.after,caught,other,false_and,not_false_eq_true,or_true,iff_true]
      exact lossless_of_none rfl
  · have other : ¬ ∃ e', (Except.ok back : Except Exn Bool) = .error e' ∧ e'.isRuntimeError = true := by
      rintro ⟨e',same,_⟩; cases same
    simp only [Except.map,other,false_and,not_false_eq_true,or_true,iff_true]
    intro _ u same
    rw [source_of_avoids script (avoids_mono (fun _ => loud_source) quiet_setBuiltStatuses)] at same
    cases back with
    | false => cases same
    | true =>
      cases same
      exact checks (recoveryEnds_reboot h)

end

/-- A recovery keeps every transaction unless it falls back on creating the
    cluster anew from a leader that misses some. -/
theorem outage_noLoss_iff {T : Type} (units : List UnitId) (txs : UnitId → Set T) (script : Script Call Reply Exn)
    (charm : Charm) (checks : RebootChecks units txs script charm.unit) :
    NoLoss units txs script charm ↔ Includes units txs charm.unit ∨ ¬ FallbackCompletes script charm := by
  unfold NoLoss play FallbackCompletes
  rw [recoverFromOfflineLeader,collectPeerStates_eq,bind_assoc,run_bind,run_perform]
  rcases h : script.reply .peersRelation 0 with e | peers
  · have idle : ¬ Begins script := by rintro ⟨⟨peers,same,_⟩,_⟩; rw [h] at same; cases same
    simp only [respond,rules,effect,List.count_nil,h,idle,false_and,not_false_eq_true,or_true,iff_true]
    exact lossless_of_none rfl
  · simp only [respond,rules,effect,List.count_nil,h,pure_bind,List.nil_append]
    by_cases online : (peerStatesOf peers).contains InstanceState.online.value = true
    · have idle : ¬ Begins script := by
        rintro ⟨⟨peers',same,none,_⟩,_⟩
        rw [h] at same; cases same
        rw [online] at none; cases none
      simp only [online,if_true,idle,false_and,not_false_eq_true,or_true,iff_true]
      refine lossless_of_none ?_
      exact congrArg Source.source (source_of_avoids script
        (avoids_rejoinInstance (fun _ => loud_source) (by simp) (by simp) charm) _)
    · by_cases outage : outageStates (peerStatesOf peers) = true
      · have allowed : ∃ peers', script.reply .peersRelation 0 = .ok peers' ∧
            (peerStatesOf peers').contains InstanceState.online.value = false ∧
            outageStates (peerStatesOf peers') = true := ⟨peers,h,by simpa using online,outage⟩
        have tail := tail_lossless_iff script charm checks [.peersRelation,countCall] (by simp)
          (by simp [recreateCalls])
        rw [if_neg online,if_pos outage,run_bind]
        rcases count : script.reply countCall 0 with e | ids
        · by_cases caught : e.isExecutionError = true
          · have begins : Begins script := ⟨allowed,by simp [count,caught]⟩
            simpa [fetchClusterMembers,InstanceClient.countClusterMembers,run_tryElse,respond,rules,effect,count,caught,
              begins] using tail
          · have idle : ¬ Begins script := by rintro ⟨_,seen⟩; rw [count] at seen; exact caught seen
            simp only [idle,false_and,not_false_eq_true,or_true,iff_true]
            refine lossless_of_none ?_
            simp [fetchClusterMembers,InstanceClient.countClusterMembers,run_tryElse,respond,rules,effect,count,caught]
        · cases ids with
          | nil =>
            have begins : Begins script := ⟨allowed,by simp [count]⟩
            simpa [fetchClusterMembers,InstanceClient.countClusterMembers,run_tryElse,respond,rules,effect,count,
              begins] using tail
          | cons m rest =>
            have idle : ¬ Begins script := by rintro ⟨_,seen⟩; rw [count] at seen; cases seen
            simp only [idle,false_and,not_false_eq_true,or_true,iff_true]
            refine lossless_of_none ?_
            simp [fetchClusterMembers,InstanceClient.countClusterMembers,run_tryElse,respond,rules,effect,count]
      · have idle : ¬ Begins script := by
          rintro ⟨⟨peers',same,_,seen⟩,_⟩
          rw [h] at same; cases same
          exact outage seen
        simp only [online,outage,idle,false_and,not_false_eq_true,or_true,iff_true]
        exact lossless_of_none rfl

/-- Both units have published that they are OFFLINE. -/
def outOfReach : PeersRelation :=
  ⟨[(1,[("member-role","unknown"),("member-state","OFFLINE")])],[("member-role","unknown"),("member-state","OFFLINE")],0⟩

/-- The reboot refuses and every other call succeeds. -/
def refusedScript : Script Call Reply Exn where
  reply c _ := match c with
    | .peersRelation => .ok (some outOfReach)
    | .rebootCluster _ => .error ⟨.executionError,"The instance has missing transactions"⟩
    | _ => .ok default
  takesEffect _ _ := false

def leader : Charm := ⟨.vm,"mysql",0,"cluster-set","10.0.0.10"⟩

theorem outage_noLoss_iff_refused :
    RebootChecks [0,1] (fun u => {n : Nat | n ≤ u}) refusedScript leader.unit ∧
      (NoLoss [0,1] (fun u => {n : Nat | n ≤ u}) refusedScript leader ↔
        Includes [0,1] (fun u => {n : Nat | n ≤ u}) leader.unit ∨ ¬ FallbackCompletes refusedScript leader) :=
  ⟨nofun,outage_noLoss_iff [0,1] _ refusedScript leader nofun⟩

/-- A leader that misses a transaction of its peer recreates the cluster when the
    reboot refuses, and the handler returns. -/
theorem refused_reboot_loses :
    RebootChecks [0,1] (fun u => {n : Nat | n ≤ u}) refusedScript leader.unit ∧
      ¬ NoLoss [0,1] (fun u => {n : Nat | n ≤ u}) refusedScript leader := by
  refine ⟨nofun,fun noLoss => ?_⟩
  have includes := noLoss (by rfl) 0 (by rfl) 1 (by simp)
  have : (1 : Nat) ≤ 0 := includes (show (1 : Nat) ≤ 1 from Nat.le_refl 1)
  omega

end MysqlOperators.Outage
