import MysqlOperators.Quiet
import MysqlOperators.Scripted

/-!
Quorum recovery across a partition. The world is the local view of the group: a
query for members reads the view of its moment, and stopping replication leaves
only the local member, OFFLINE. A recovery path is guarded when every reboot in it
was preceded by a successful query that saw the view of the start.
-/
namespace MysqlOperators.Quorum
open MysqlOperators.Program MysqlOperators.Program.Prog MysqlOperators.External MysqlOperators.Clients
open MysqlOperators.Helpers MysqlOperators.SelfHealing MysqlOperators.Quiet MysqlOperators.Scripted
set_option linter.unusedSimpArgs false

structure Member where
  id : String
  state : InstanceState
deriving DecidableEq, Repr

/-- The local view, the views in which UNREACHABLE members were counted so far,
    and for each reboot the views that had been counted before it. -/
structure LocalView where
  me : String
  view : List Member
  counted : List (List Member)
  reboots : List (List (List Member))
deriving DecidableEq, Repr

def inStates (states : List InstanceState) (m : Member) : Bool := states.isEmpty || states.contains m.state

def answer (w : LocalView) : (c : Call) → Except Exn (Reply c) → Except Exn (Reply c)
  | .searchMembers .own states, .ok _ => .ok ((w.view.filter (inStates states)).map Member.id)
  | _, r => r

def stopped (w : LocalView) : LocalView := { w with view := [⟨w.me,.offline⟩] }

def effect (w : LocalView) : (c : Call) → Except Exn (Reply c) → Bool → LocalView
  | .stopReplication .own, .ok _, _ => stopped w
  | .stopReplication .own, .error _, true => stopped w
  | .searchMembers .own [.unreachable], .ok _, _ => { w with counted := w.counted ++ [w.view] }
  | .rebootCluster .own, _, _ => { w with reboots := w.reboots ++ [w.counted] }
  | _, _, _ => w

def rules : Rules LocalView Call Reply Exn := ⟨answer,effect⟩

def start (me : String) (view : List Member) : LocalView := ⟨me,view,[],[]⟩

/-- Every reboot comes after a successful query which saw the view of the start,
    and no member of that view was UNREACHABLE. -/
def Established (view : List Member) (reboots : List (List (List Member))) : Prop :=
  ∀ known ∈ reboots, (∀ m ∈ view, m.state ≠ .unreachable) ∧ view ∈ known

def Guarded (script : Script Call Reply Exn) (path : Hook Unit) (me : String) (view : List Member) : Prop :=
  Established view (play rules script path (start me view)).2.world.reboots

/-! ### When the guard works -/

abbrev stopCall : Call := .stopReplication .own
abbrev unreachableQuery : Call := .searchMembers .own [.unreachable]

/-- The view once replication was asked to stop. -/
def viewAfterStop (script : Script Call Reply Exn) (me : String) (view : List Member) : List Member :=
  match script.reply stopCall 0 with
  | .ok _ => [⟨me,.offline⟩]
  | .error _ => if script.takesEffect stopCall 0 then [⟨me,.offline⟩] else view

/-- The call raises something that the clients do not catch. -/
def Aborts {c : Call} (r : Except Exn (Reply c)) : Prop := ∃ e, r = .error e ∧ e.isExecutionError = false

def Succeeds {c : Call} (r : Except Exn (Reply c)) : Prop := ∃ a, r = .ok a

/-- Stopping or counting aborts the recovery, or the count succeeds on a view that
    stopping has left as it was. -/
def GuardSees (script : Script Call Reply Exn) (me : String) (view : List Member) : Prop :=
  Aborts (script.reply stopCall 0) ∨ Aborts (script.reply unreachableQuery 0) ∨
    (Succeeds (script.reply unreachableQuery 0) ∧ viewAfterStop script me view = view)

/-- MySQL Shell reports that the cluster has lost its quorum. -/
def QuorumLost (script : Script Call Reply Exn) : Prop :=
  ∃ report, script.reply (.clusterStatus .own) 0 = .ok report ∧ report.status = .noQuorum

/-- The published states allow a recovery and no ONLINE member is counted. -/
def OutageSeen (script : Script Call Reply Exn) (view : List Member) : Prop :=
  (∃ peers, script.reply .peersRelation 0 = .ok peers ∧
    (peerStatesOf peers).contains InstanceState.online.value = false ∧ outageStates (peerStatesOf peers) = true) ∧
  match script.reply (.searchMembers .own [.online]) 0 with
  | .ok _ => view.filter (inStates [.online]) = []
  | .error e => e.isExecutionError = true

/-! ### The common steps of both paths -/

/-- The reboots of `stop_replication` and `recover_cluster_quorum`. -/
def rebootsOf (script : Script Call Reply Exn) (me : String) (view : List Member) : List (List (List Member)) :=
  match script.reply stopCall 0,script.reply unreachableQuery 0 with
  | .error e, r => if e.isExecutionError then counting r else []
  | .ok _, r => counting r
where
  counting : Except Exn (Reply unreachableQuery) → List (List (List Member))
    | .error e => if e.isExecutionError then [[]] else []
    | .ok _ =>
      if (viewAfterStop script me view).filter (inStates [.unreachable]) = [] then [[viewAfterStop script me view]]
      else []

theorem stopAndRecover_reboots (script : Script Call Reply Exn) (s : Scene LocalView Call)
    (noStop : s.log.count stopCall = 0) (noQuery : s.log.count unreachableQuery = 0)
    (uncounted : s.world.counted = []) (unbooted : s.world.reboots = []) :
    (run (respond rules script) (do stopReplication; recoverClusterQuorum : Hook Unit) s).2.world.reboots =
      rebootsOf script s.world.me s.world.view := by
  obtain ⟨⟨me,view,counted,reboots⟩,log⟩ := s
  simp only at noStop noQuery uncounted unbooted
  subst uncounted unbooted
  have query : ∀ (w : LocalView) (log' : List Call), log'.count unreachableQuery = 0 → w.counted = [] →
      w.reboots = [] → w.view = viewAfterStop script me view →
      (run (respond rules script) recoverClusterQuorum ⟨w,log'⟩).2.world.reboots =
        rebootsOf.counting script me view (script.reply unreachableQuery 0) := by
    rintro ⟨me',view',counted',reboots'⟩ log' none rfl rfl sees
    simp only at sees
    subst sees
    simp only [recoverClusterQuorum,InstanceClient.countClusterMembers,run_bind,run_tryElse,run_perform,respond,
      rules,none]
    rcases script.reply unreachableQuery 0 with e | ids
    · by_cases caught : e.isExecutionError = true
      · simp [answer,effect,rebootsOf.counting,caught,ClusterClient.reboot,respond,rules]
      · simp [answer,effect,rebootsOf.counting,caught]
    · by_cases empty : (viewAfterStop script me view).filter (inStates [.unreachable]) = []
      · simp [answer,effect,rebootsOf.counting,empty,ClusterClient.reboot,respond,rules]
      · simp [answer,effect,rebootsOf.counting,empty,List.length_pos_iff]
  simp only [run_bind,stopReplication,InstanceClient.stopReplication,run_tryExcept,run_perform,respond,rules,noStop]
  rcases h : script.reply stopCall 0 with e | u
  · by_cases caught : e.isExecutionError = true
    · by_cases changed : script.takesEffect stopCall 0 = true
      · simp only [answer,effect,caught,changed,if_true,run_pure,rebootsOf,h]
        exact query _ _ (by simp [noQuery]) rfl rfl (by simp [viewAfterStop,h,changed,stopped])
      · simp only [answer,effect,caught,changed,if_true,run_pure,rebootsOf,h]
        exact query _ _ (by simp [noQuery]) rfl rfl (by simp [viewAfterStop,h,changed])
    · by_cases changed : script.takesEffect stopCall 0 = true
      · simp [answer,effect,caught,changed,rebootsOf,h,stopped]
      · simp [answer,effect,caught,changed,rebootsOf,h]
  · simp only [answer,effect,rebootsOf,h]
    exact query _ _ (by simp [noQuery]) rfl rfl (by simp [viewAfterStop,h,stopped])

theorem viewAfterStop_cases (script : Script Call Reply Exn) (me : String) (view : List Member) :
    viewAfterStop script me view = view ∨ viewAfterStop script me view = [⟨me,.offline⟩] := by
  unfold viewAfterStop
  split
  · exact .inr rfl
  · split
    · exact .inr rfl
    · exact .inl rfl

theorem filter_unreachable_eq_nil (view : List Member) :
    view.filter (inStates [.unreachable]) = [] ↔ ∀ m ∈ view, m.state ≠ .unreachable := by
  simp [List.filter_eq_nil_iff,inStates]

/-- A count that does not abort is enough for the guard exactly when it succeeds
    on the view of the start. -/
theorem counting_guarded_iff (script : Script Call Reply Exn) (me : String) (view : List Member)
    (r : Except Exn (Reply unreachableQuery)) :
    Established view (rebootsOf.counting script me view r) ↔
      Aborts r ∨ (Succeeds r ∧ viewAfterStop script me view = view) := by
  unfold Established
  rcases r with e | ids
  · by_cases caught : e.isExecutionError = true
    · simp [rebootsOf.counting,caught,Aborts,Succeeds]
    · simp [rebootsOf.counting,caught,Aborts]
  · have finds : Succeeds (c := unreachableQuery) (.ok ids) := ⟨ids,rfl⟩
    have ends : ¬ Aborts (c := unreachableQuery) (.ok ids) := by rintro ⟨e,impossible,_⟩; cases impossible
    simp only [ends,finds,false_or,true_and]
    rcases viewAfterStop_cases script me view with same | alone
    · simp only [rebootsOf.counting,same,filter_unreachable_eq_nil,iff_true]
      by_cases clear : ∀ m ∈ view, m.state ≠ .unreachable
      · simp [clear]
      · simp [clear]
    · simp only [rebootsOf.counting,alone]
      constructor
      · intro all
        have := (all [[⟨me,.offline⟩]] (by simp [inStates])).2
        simpa [eq_comm] using this
      · intro same
        simp [← same,inStates]

theorem no_reboot_established (view : List Member) : Established view [] := by
  intro known made
  cases made

theorem rebootsOf_guarded_iff (script : Script Call Reply Exn) (me : String) (view : List Member) :
    Established view (rebootsOf script me view) ↔ GuardSees script me view := by
  unfold GuardSees
  rcases h : script.reply stopCall 0 with e | u
  · by_cases caught : e.isExecutionError = true
    · have passes : ¬ Aborts (c := stopCall) (.error e) := by
        rintro ⟨e',same,other⟩; cases same; rw [caught] at other; cases other
      simp only [rebootsOf,h,caught,if_true,counting_guarded_iff,passes,false_or]
    · have aborts : Aborts (c := stopCall) (.error e) := ⟨e,rfl,by simpa using caught⟩
      simp [rebootsOf,h,caught,aborts,no_reboot_established]
  · have passes : ¬ Aborts (c := stopCall) (.ok u) := by rintro ⟨e,impossible,_⟩; cases impossible
    simp only [rebootsOf,h,counting_guarded_iff,passes,false_or]

/-! ### The two paths -/

theorem reboots_of_avoids (script : Script Call Reply Exn) {p : Hook Unit}
    (avoids : Avoids (· = .rebootCluster .own) p) (s : Scene LocalView Call) :
    (run (respond rules script) p s).2.world.reboots = s.world.reboots := by
  refine run_avoids _ (fun s => s.world.reboots) (fun s c other => ?_) avoids s
  simp only [respond,rules]
  unfold effect
  split <;> first | rfl | exact absurd rfl other

/-- What follows the common steps of a path makes no reboot. -/
theorem tail_reboots (script : Script Call Reply Exn) {steps : Hook Unit} {handler : Exn → Hook Unit}
    {orElse : Unit → Hook Unit} (raised : ∀ e, Avoids (· = .rebootCluster .own) (handler e))
    (returned : ∀ a, Avoids (· = .rebootCluster .own) (orElse a)) (s : Scene LocalView Call) :
    (run (respond rules script) (steps.tryElse Exn.isRuntimeError handler orElse) s).2.world.reboots =
      (run (respond rules script) steps s).2.world.reboots := by
  rw [run_tryElse]
  rcases run (respond rules script) steps s with ⟨e | a,s'⟩
  · simp only
    split
    · exact reboots_of_avoids script (raised e) s'
    · rfl
  · exact reboots_of_avoids script (returned a) s'

theorem loud_reboot {c : Call} (h : c = .rebootCluster .own) : Loud c := by subst h; rfl

theorem recreateCluster_no_reboot (label : String) :
    Avoids (· = Call.rebootCluster .own) (SelfHealing.recreateCluster label) := by
  refine avoids_bind (avoids_ask (by simp)) fun _ => avoids_bind (avoids_bind (avoids_ask (by simp)) (fun _ => trivial))
    fun _ => ?_
  refine avoids_bind (avoids_bind (avoids_ask (by simp)) fun _ => avoids_ask (by simp)) fun _ => ?_
  exact avoids_bind (avoids_ask (by simp)) fun _ => avoids_ask (by simp)

/-- The reboots of a path are those of its common steps. -/
theorem recovery_reboots (script : Script Call Reply Exn) {handler : Exn → Hook Unit} {orElse : Unit → Hook Unit}
    (raised : ∀ e, Avoids (· = .rebootCluster .own) (handler e))
    (returned : ∀ a, Avoids (· = .rebootCluster .own) (orElse a)) (s : Scene LocalView Call)
    (noStop : s.log.count stopCall = 0) (noQuery : s.log.count unreachableQuery = 0)
    (uncounted : s.world.counted = []) (unbooted : s.world.reboots = []) :
    (run (respond rules script) ((do stopReplication; recoverClusterQuorum : Hook Unit).tryElse Exn.isRuntimeError
      handler orElse) s).2.world.reboots = rebootsOf script s.world.me s.world.view :=
  (tail_reboots script raised returned s).trans
    (stopAndRecover_reboots script s noStop noQuery uncounted unbooted)

/-- On an ONLINE leader. -/
theorem online_guarded_iff (script : Script Call Reply Exn) (me : String) (view : List Member) :
    Guarded script recoverFromOnlineLeader me view ↔ ¬ QuorumLost script ∨ GuardSees script me view := by
  unfold Guarded play
  rcases h : script.reply (.clusterStatus .own) 0 with e | report
  · have kept : ¬ QuorumLost script := by rintro ⟨report,same,_⟩; rw [h] at same; cases same
    have ends : (run (respond rules script) recoverFromOnlineLeader ⟨start me view,[]⟩).2.world.reboots = [] := by
      by_cases caught : e.isExecutionError = true <;>
        simp [recoverFromOnlineLeader,fetchClusterState,ClusterClient.fetchState,run_bind,run_tryElse,respond,rules,
          answer,effect,h,caught,start]
    rw [ends]
    exact iff_of_true (no_reboot_established view) (.inl kept)
  · have fetched : run (respond rules script) fetchClusterState ⟨start me view,[]⟩ =
        (.ok (some report.status),⟨start me view,[.clusterStatus .own]⟩) := by
      simp [fetchClusterState,ClusterClient.fetchState,run_tryElse,respond,rules,answer,effect,h]
    rw [recoverFromOnlineLeader,run_bind,fetched]
    simp only
    by_cases lost : report.status = .noQuorum
    · have quorum : QuorumLost script := ⟨report,h,lost⟩
      rw [if_neg (by simp [lost]),recovery_reboots script
        (fun _ => avoids_mono (fun _ => loud_reboot) (quiet_setUnitStatus _))
        (fun _ => avoids_mono (fun _ => loud_reboot) quiet_setBuiltStatuses) _ (by simp) (by simp) rfl rfl,
        show (start me view).me = me from rfl,show (start me view).view = view from rfl,rebootsOf_guarded_iff]
      simp [quorum]
    · have kept : ¬ QuorumLost script := by
        rintro ⟨report',same,no⟩; rw [h] at same; cases same; exact lost no
      rw [if_pos (by simp [lost])]
      exact iff_of_true (no_reboot_established view) (.inl kept)

/-- An OFFLINE leader, once the published states allow a recovery. -/
theorem counted_guarded_iff (script : Script Call Reply Exn) (charm : Charm) (me : String) (view : List Member)
    (allowed : ∃ peers, script.reply .peersRelation 0 = .ok peers ∧
      (peerStatesOf peers).contains InstanceState.online.value = false ∧ outageStates (peerStatesOf peers) = true) :
    Established view (run (respond rules script) (do
      if (← fetchClusterMembers) > 0 then pure ()
      else
        (do stopReplication; recoverClusterQuorum : Hook Unit).tryElse Exn.isRuntimeError
          (fun _ => SelfHealing.recreateCluster (getUnitLabel charm charm.unit))
          (fun _ => setBuiltStatuses) : Hook Unit)
      ⟨start me view,[.peersRelation]⟩).2.world.reboots ↔ ¬ OutageSeen script view ∨ GuardSees script me view := by
  have recovers : ∀ log : List Call, log.count stopCall = 0 → log.count unreachableQuery = 0 →
      (run (respond rules script) ((do stopReplication; recoverClusterQuorum : Hook Unit).tryElse Exn.isRuntimeError
        (fun _ => SelfHealing.recreateCluster (getUnitLabel charm charm.unit)) (fun _ => setBuiltStatuses))
        ⟨start me view,log⟩).2.world.reboots = rebootsOf script me view :=
    fun log noStop noQuery => recovery_reboots script (fun _ => recreateCluster_no_reboot _)
      (fun _ => avoids_mono (fun _ => loud_reboot) quiet_setBuiltStatuses) _ noStop noQuery rfl rfl
  rw [run_bind]
  rcases h : script.reply (.searchMembers .own [.online]) 0 with e | ids
  · by_cases caught : e.isExecutionError = true
    · have seen : OutageSeen script view := ⟨allowed,by simp [h,caught]⟩
      have none : run (respond rules script) fetchClusterMembers ⟨start me view,[.peersRelation]⟩ =
          (.ok 0,⟨start me view,[.peersRelation,.searchMembers .own [.online]]⟩) := by
        simp [fetchClusterMembers,InstanceClient.countClusterMembers,run_tryElse,respond,rules,answer,effect,h,caught]
      rw [none]
      simp only [gt_iff_lt,Nat.lt_irrefl,if_false]
      rw [recovers _ (by simp) (by simp),rebootsOf_guarded_iff]
      simp [seen]
    · have unseen : ¬ OutageSeen script view := by rintro ⟨_,seen⟩; rw [h] at seen; exact caught seen
      have raised : run (respond rules script) fetchClusterMembers ⟨start me view,[.peersRelation]⟩ =
          (.error e,⟨start me view,[.peersRelation,.searchMembers .own [.online]]⟩) := by
        simp [fetchClusterMembers,InstanceClient.countClusterMembers,run_tryElse,respond,rules,answer,effect,h,caught]
      rw [raised]
      exact iff_of_true (no_reboot_established view) (.inl unseen)
  · have counted : run (respond rules script) fetchClusterMembers ⟨start me view,[.peersRelation]⟩ =
        (.ok (view.filter (inStates [.online])).length,
          ⟨start me view,[.peersRelation,.searchMembers .own [.online]]⟩) := by
      simp [fetchClusterMembers,InstanceClient.countClusterMembers,run_tryElse,respond,rules,answer,effect,h,start]
    rw [counted]
    simp only [gt_iff_lt,List.length_pos_iff]
    by_cases none : view.filter (inStates [.online]) = []
    · have seen : OutageSeen script view := ⟨allowed,by simp [h,none]⟩
      rw [if_neg (by simp [none]),recovers _ (by simp) (by simp),rebootsOf_guarded_iff]
      simp [seen]
    · have unseen : ¬ OutageSeen script view := by rintro ⟨_,seen⟩; rw [h] at seen; exact none seen
      rw [if_pos none]
      exact iff_of_true (no_reboot_established view) (.inl unseen)

/-- On an OFFLINE leader. -/
theorem offline_guarded_iff (script : Script Call Reply Exn) (charm : Charm) (me : String) (view : List Member) :
    Guarded script (recoverFromOfflineLeader charm) me view ↔ ¬ OutageSeen script view ∨ GuardSees script me view := by
  unfold Guarded play
  rcases h : script.reply .peersRelation 0 with e | peers
  · have unseen : ¬ OutageSeen script view := by rintro ⟨⟨peers,same,_⟩,_⟩; rw [h] at same; cases same
    have ends : (run (respond rules script) (recoverFromOfflineLeader charm) ⟨start me view,[]⟩).2.world.reboots = [] := by
      simp [recoverFromOfflineLeader,collectPeerStates,run_bind,respond,rules,answer,effect,h,start]
    rw [ends]
    exact iff_of_true (no_reboot_established view) (.inl unseen)
  · have states : run (respond rules script) collectPeerStates ⟨start me view,[]⟩ =
        (.ok (peerStatesOf peers),⟨start me view,[.peersRelation]⟩) := by
      rw [collectPeerStates_eq,run_bind,run_perform]
      simp [respond,rules,answer,effect,h]
    rw [recoverFromOfflineLeader,run_bind,states]
    simp only
    by_cases online : (peerStatesOf peers).contains InstanceState.online.value = true
    · have unseen : ¬ OutageSeen script view := by
        rintro ⟨⟨peers',same,none,_⟩,_⟩
        rw [h] at same; cases same
        rw [online] at none; cases none
      rw [if_pos online,reboots_of_avoids script
        (avoids_rejoinInstance (fun _ => loud_reboot) (by simp) (by simp) charm)]
      exact iff_of_true (no_reboot_established view) (.inl unseen)
    · rw [if_neg online]
      by_cases outage : outageStates (peerStatesOf peers) = true
      · rw [if_pos outage]
        have allowed : (∃ peers', script.reply .peersRelation 0 = .ok peers' ∧
            (peerStatesOf peers').contains InstanceState.online.value = false ∧
            outageStates (peerStatesOf peers') = true) := ⟨peers,h,by simpa using online,outage⟩
        exact counted_guarded_iff script charm me view allowed
      · have unseen : ¬ OutageSeen script view := by
          rintro ⟨⟨peers',same,_,seen⟩,_⟩
          rw [h] at same; cases same
          exact outage seen
        rw [if_neg outage]
        exact iff_of_true (no_reboot_established view) (.inl unseen)

/-- Each path is guarded exactly when it does not get to the common steps, or its
    count aborts or sees the view of the start. -/
theorem quorum_guard_iff (script : Script Call Reply Exn) (charm : Charm) (me : String) (view : List Member) :
    (Guarded script recoverFromOnlineLeader me view ↔ ¬ QuorumLost script ∨ GuardSees script me view) ∧
    (Guarded script (recoverFromOfflineLeader charm) me view ↔ ¬ OutageSeen script view ∨ GuardSees script me view) :=
  ⟨online_guarded_iff script me view,offline_guarded_iff script charm me view⟩

/-- Every call succeeds on a leader that sees both of its peers UNREACHABLE. -/
def partitionScript : Script Call Reply Exn where
  reply c _ := match c with
    | .clusterStatus _ => .ok ⟨.primary,.noQuorum,some "mysql-0:3306",[]⟩
    | _ => .ok default
  takesEffect _ _ := false

def partitionView : List Member := [⟨"mysql-0",.online⟩,⟨"mysql-1",.unreachable⟩,⟨"mysql-2",.unreachable⟩]

/-- Stopping first leaves nothing for the guard to see: the reboot runs across the
    partition. -/
theorem partition_unguarded : ¬ Guarded partitionScript recoverFromOnlineLeader "mysql-0" partitionView := by
  intro guarded
  have known := guarded [[⟨"mysql-0",.offline⟩]] (by decide)
  exact known.1 ⟨"mysql-1",.unreachable⟩ (by decide) rfl

end MysqlOperators.Quorum
