import MysqlOperators.Cluster
import MysqlOperators.Quiet
import MysqlOperators.Scripted

/-!
The promotion of a unit to primary. The world is the group as it is; the script
decides how every call ends, and what MySQL answers is true of the group. A forced
promotion restores the quorum of the members that the unit sees, and the group
keeps its primary or elects one by a rule of its own.
-/
namespace MysqlOperators.Promotion
open MysqlOperators.Program MysqlOperators.Program.Prog MysqlOperators.External MysqlOperators.Clients
open MysqlOperators.Workload MysqlOperators.Helpers MysqlOperators.Quiet MysqlOperators.Scripted MysqlOperators.Cluster
set_option linter.unusedSimpArgs false

/-! ### The group -/

/-- The hosts of the members, those that are ONLINE and visible from the unit, the
    primary, whether the unit sees a quorum, and whether the action has reported. -/
structure Group where
  members : List String
  visible : List String
  primary : String
  quorum : Bool
  reported : Bool
deriving DecidableEq, Repr

namespace Group

/-- The primary of the visible members alone. -/
def survivor (elect : List String → String) (w : Group) : String :=
  if w.visible.contains w.primary then w.primary else elect w.visible

end Group

def noInstance : Exn := ⟨.executionError,"The instance does not belong to the cluster"⟩

/-- The status shows the primary while there is a quorum; only members are promoted,
    and only visible ones restore a quorum. -/
def answer (w : Group) : (c : Call) → Except Exn (Reply c) → Except Exn (Reply c)
  | .clusterStatus .own, .ok report =>
    .ok { report with
      status := if w.quorum then (if report.status = .noQuorum then .ok else report.status) else .noQuorum
      primary := if w.quorum then some (w.primary ++ ":3306") else report.primary }
  | .promoteInstance .own host, .ok _ => if w.members.contains host then .ok () else .error noInstance
  | .forceQuorum .own host, .ok _ => if w.visible.contains host then .ok () else .error noInstance
  | _, r => r

abbrev reportCall : Call := .setResults "message" "Instance is now primary"

def done (elect : List String → String) (w : Group) : Call → Group
  | .promoteInstance .own host => { w with primary := host }
  | .forceQuorum .own _ => { w with members := w.visible, primary := w.survivor elect, quorum := true }
  | .setResults _ value => if value = "Instance is now primary" then { w with reported := true } else w
  | _ => w

def rules (elect : List String → String) : Rules Group Call Reply Exn where
  answer := answer
  effect w c r happened := match r with
    | .ok _ => done elect w c
    | .error _ => if happened then done elect w c else w

/-- The primary is a member, the members have host names, and nothing is reported yet. -/
structure WellFormed (w : Group) : Prop where
  led : w.primary ∈ w.members
  named : ∀ host ∈ w.members, host ≠ "" ∧ ':' ∉ host.toList
  within : ∀ host ∈ w.visible, host ∈ w.members
  silent : w.reported = false

/-- What the action reports is true. -/
def Truthful (me : String) (w : Group) : Prop := w.reported = true → w.primary = me

/-! ### The address of the unit -/

/-- The name that Kubernetes resolves. -/
def endpoint (charm : Charm) : String := getUnitLabel charm charm.unit ++ "." ++ charm.appName ++ "-endpoints"

section
variable (charm : Charm) (script : Script Call Reply Exn) (me : String)

/-- Where the address of the unit is known, it is the one of its instance. -/
structure Addressed : Prop where
  stored : ∀ n peers host, script.reply .peersRelation n = .ok (some peers) →
    PeerStateUnit.getUnitAddress peers.own relationPeers = some host → host = me
  resolved : ∀ n host, script.reply (.hostname (endpoint charm)) n = .ok host → host = me

def AddressKnown : Prop :=
  match charm.substrate with
  | .vm => ∃ peers host, script.reply .peersRelation 0 = .ok (some peers) ∧
      PeerStateUnit.getUnitAddress peers.own relationPeers = some host
  | .k8s => ∃ found, script.reply (.hostname (endpoint charm)) 0 = .ok found ∧
      Python.occursIn (endpoint charm).toList found.toList = true

/-- The status shows the instance as the primary. -/
def Shown (w : Group) : Prop :=
  (∃ report, script.reply (.clusterStatus .own) 0 = .ok report) ∧ w.quorum = true ∧ w.primary = me

/-- The report of the action is taken. -/
def Reports : Prop := (∃ a, script.reply reportCall 0 = .ok a) ∨ script.takesEffect reportCall 0 = true

/-- A forced promotion that succeeds and leaves another primary. -/
structure ForcedElsewhere (elect : List String → String) (force : Bool) (w : Group) : Prop where
  forced : force = true
  known : AddressKnown charm script
  unseen : ¬ Shown script me w
  status : ∀ e, script.reply (.clusterStatus .own) 0 = .error e → e.isExecutionError = true
  seen : me ∈ w.visible
  restored : ∃ a, script.reply (.forceQuorum .own me) 0 = .ok a
  elsewhere : w.survivor elect ≠ me

end

/-! ### The steps of the promotion -/

/-- The calls that change the group or the report. -/
def changes : Call → Bool
  | .promoteInstance _ _ | .forceQuorum _ _ | .setResults _ _ => true
  | _ => false

section
variable {elect : List String → String} {script : Script Call Reply Exn} {w : Group} {log : List Call}

theorem done_of_not_changes {c : Call} (still : changes c = false) (w : Group) : done elect w c = w := by
  unfold done
  split
  · cases still
  · cases still
  · cases still
  · rfl

theorem effect_of_not_changes {c : Call} (still : changes c = false) (w : Group) (r : Except Exn (Reply c))
    (happened : Bool) : (rules elect).effect w c r happened = w := by
  simp only [rules,done_of_not_changes still,ite_self]
  split <;> rfl

/-- A call of which the group knows nothing. -/
theorem respond_plain {c : Call} (still : changes c = false) (free : ∀ r, answer w c r = r) :
    respond (rules elect) script ⟨w,log⟩ c = (script.reply c (log.count c),⟨w,log ++ [c]⟩) := by
  simp only [respond,effect_of_not_changes still]
  simp only [rules,free]

theorem run_keeps_group {α : Type} {p : Hook α} (still : Avoids (fun c => changes c = true) p) (s : Scene Group Call) :
    (run (respond (rules elect) script) p s).2.world = s.world :=
  run_keeps (rules elect) script id (fun w _ r happened other =>
    effect_of_not_changes (by simpa using other) w r happened) still s

/-- The address is the one of the instance, or empty, or does not come at all. -/
theorem address_cases {charm : Charm} {me : String} (addressed : Addressed charm script me) :
    ∃ r c, run (respond (rules elect) script) (getUnitAddress charm charm.unit relationPeers) ⟨w,[]⟩ = (r,⟨w,[c]⟩) ∧
      (c = .peersRelation ∨ c = .hostname (endpoint charm)) ∧ (AddressKnown charm script → r = .ok me) ∧
      (¬ AddressKnown charm script → ∀ host, r = .ok host → host = "") := by
  unfold getUnitAddress AddressKnown
  cases charm.substrate with
  | vm =>
    simp only [run_bind,run_perform,respond_plain (c := .peersRelation) rfl (fun _ => rfl),List.count_nil,List.nil_append]
    rcases asked : script.reply .peersRelation 0 with e | (_ | peers)
    · exact ⟨.error e,.peersRelation,rfl,.inl rfl,fun ⟨_,_,same,_⟩ => (nomatch same),nofun⟩
    · exact ⟨.ok "",.peersRelation,rfl,.inl rfl,fun ⟨_,_,same,_⟩ => (nomatch same),
        fun _ host same => (Except.ok.inj same).symm⟩
    · refine ⟨.ok ((PeerStateUnit.getUnitAddress peers.own relationPeers).getD ""),.peersRelation,by simp,.inl rfl,?_,?_⟩
      · rintro ⟨found,host,same,stored⟩
        cases same
        rw [stored,addressed.stored 0 _ host asked stored]
        rfl
      · intro unknown host same
        rcases stored : PeerStateUnit.getUnitAddress peers.own relationPeers with _ | address
        · rw [stored] at same
          exact (Except.ok.inj same).symm
        · exact absurd ⟨peers,address,rfl,stored⟩ unknown
  | k8s =>
    simp only [run_bind,run_perform]
    rw [show getUnitLabel charm charm.unit ++ "." ++ charm.appName ++ "-endpoints" = endpoint charm from rfl]
    simp only [respond_plain (c := .hostname (endpoint charm)) rfl (fun _ => rfl),List.count_nil,List.nil_append]
    rcases asked : script.reply (.hostname (endpoint charm)) 0 with e | found
    · exact ⟨.error e,_,rfl,.inr rfl,fun ⟨_,same,_⟩ => (nomatch same),nofun⟩
    · by_cases inside : Python.occursIn (endpoint charm).toList found.toList = true
      · refine ⟨.ok found,_,by simp [inside],.inr rfl,?_,?_⟩
        · intro _
          rw [addressed.resolved 0 found asked]
        · exact fun unknown => absurd ⟨found,rfl,inside⟩ unknown
      · refine ⟨.error _,_,by simp only [inside]; rfl,.inr rfl,?_,nofun⟩
        rintro ⟨_,same,occurs⟩
        cases same
        exact absurd occurs inside

/-- The primary, as far as it is known. -/
def known (w : Group) : Except Exn ClusterReport → Except Exn (Option String)
  | .ok _ => .ok (if w.quorum then some w.primary else none)
  | .error e => if e.isExecutionError then .ok none else .error e

theorem run_fetchPrimaryHost (wf : WellFormed w) :
    run (respond (rules elect) script) (ClusterClient.fetchPrimaryHost .own) ⟨w,log⟩ =
      (known w (script.reply (.clusterStatus .own) (log.count (.clusterStatus .own))),
        ⟨w,log ++ [.clusterStatus .own]⟩) := by
  have named := addressHost_port (wf.named _ wf.led).2
  have respond_status : respond (rules elect) script ⟨w,log⟩ (.clusterStatus .own) =
      (answer w (.clusterStatus .own) (script.reply (.clusterStatus .own) (log.count (.clusterStatus .own))),
        ⟨w,log ++ [.clusterStatus .own]⟩) := by
    simp only [respond,effect_of_not_changes (c := .clusterStatus .own) rfl]
    rfl
  rw [ClusterClient.fetchPrimaryHost,run_tryElse,run_perform,respond_status]
  rcases answered : script.reply (.clusterStatus .own) (log.count (.clusterStatus .own)) with e | report
  · rw [answered]
    by_cases caught : e.isExecutionError = true <;> simp [answer,known,caught]
  · rw [answered]
    by_cases quorum : w.quorum = true
    · by_cases lost : report.status = .noQuorum <;> simp [answer,known,quorum,lost,named]
    · simp [answer,known,quorum]

/-- The call that a promotion comes to, unless the host is already the primary. -/
def promotingCall (host : String) (force : Bool) : Call :=
  if force then .forceQuorum .own host else .promoteInstance .own host

/-- Where the call of a promotion is admitted. -/
def admitted (w : Group) (force : Bool) : List String := if force then w.visible else w.members

/-- The promotion itself: it succeeds where its call is answered and admitted. -/
theorem run_promoting {host : String} {force : Bool} (new : log.count (promotingCall host force) = 0) :
    ∃ r s, run (respond (rules elect) script) (ClusterClient.promoteInstance .own host force) ⟨w,log⟩ = (r,s) ∧
      s.world.reported = w.reported ∧
      (r = .ok () ↔ (∃ a, script.reply (promotingCall host force) 0 = .ok a) ∧ host ∈ admitted w force) ∧
      (r = .ok () → s.world = done elect w (promotingCall host force)) := by
  refine ⟨_,_,rfl,?_⟩
  cases force with
  | true =>
    have new : log.count (.forceQuorum .own host) = 0 := new
    simp only [ClusterClient.promoteInstance,promotingCall,admitted,if_true,run_perform,respond,new,rules]
    rcases answered : script.reply (.forceQuorum .own host) 0 with e | a
    · by_cases happened : script.takesEffect (.forceQuorum .own host) 0 = true <;> simp [answer,answered,happened,done]
    · by_cases member : host ∈ w.visible
      · simp [answer,answered,member,done]
      · by_cases happened : script.takesEffect (.forceQuorum .own host) 0 = true <;>
          simp [answer,answered,member,happened,done]
  | false =>
    have new : log.count (.promoteInstance .own host) = 0 := new
    simp only [ClusterClient.promoteInstance,promotingCall,admitted,Bool.false_eq_true,if_false,run_perform,respond,new,
      rules]
    rcases answered : script.reply (.promoteInstance .own host) 0 with e | a
    · by_cases happened : script.takesEffect (.promoteInstance .own host) 0 = true <;> simp [answer,answered,happened,done]
    · by_cases member : host ∈ w.members
      · simp [answer,answered,member,done]
      · by_cases happened : script.takesEffect (.promoteInstance .own host) 0 = true <;>
          simp [answer,answered,member,happened,done]

/-- `promote_instance` for the host of the instance: it may skip the promotion. -/
theorem run_promoteInstance (wf : WellFormed w) (me : String) {force : Bool}
    (status : log.count (.clusterStatus .own) = 0) (new : log.count (promotingCall me force) = 0) :
    ∃ r s, run (respond (rules elect) script) (Clients.promoteInstance me force) ⟨w,log⟩ = (r,s) ∧
      s.world.reported = w.reported ∧
      (Shown script me w → r = .ok () ∧ s.world = w) ∧
      (¬ Shown script me w → (r = .ok () ↔
        (∀ e, script.reply (.clusterStatus .own) 0 = .error e → e.isExecutionError = true) ∧
        (∃ a, script.reply (promotingCall me force) 0 = .ok a) ∧ me ∈ admitted w force) ∧
        (r = .ok () → s.world = done elect w (promotingCall me force))) := by
  have later : (log ++ [Call.clusterStatus .own]).count (promotingCall me force) = 0 := by
    rw [count_append_single,new]
    cases force <;> simp [promotingCall]
  obtain ⟨r,s,ran,unreported,succeeds,changed⟩ := @run_promoting elect script w _ _ _ later
  rw [Clients.promoteInstance,run_bind,run_fetchPrimaryHost wf,status]
  rcases answered : script.reply (.clusterStatus .own) 0 with e | report
  · have unshown : ¬ Shown script me w := by
      rintro ⟨⟨report,same⟩,_⟩
      rw [answered] at same
      cases same
    by_cases caught : e.isExecutionError = true
    · refine ⟨r,s,by simpa [known,caught] using ran,unreported,fun shown => absurd shown unshown,fun _ => ⟨?_,changed⟩⟩
      rw [succeeds]
      refine (and_iff_right ?_).symm
      rintro _ same
      rw [← Except.error.inj same]
      exact caught
    · refine ⟨.error e,⟨w,_⟩,by simp [known,caught]; rfl,rfl,fun shown => absurd shown unshown,fun _ => ⟨?_,nofun⟩⟩
      refine iff_of_false nofun ?_
      rintro ⟨only,_⟩
      exact caught (only e rfl)
  · have never : ∀ e : Exn, Except.ok report = Except.error e → e.isExecutionError = true := fun e same => nomatch same
    by_cases shown : w.quorum = true ∧ w.primary = me
    · obtain ⟨quorum,leads⟩ := shown
      refine ⟨.ok (),⟨w,_⟩,by simp [known,quorum,leads]; rfl,rfl,fun _ => ⟨rfl,rfl⟩,?_⟩
      exact fun unshown => absurd ⟨⟨report,answered⟩,quorum,leads⟩ unshown
    · have other : (if w.quorum = true then some w.primary else none) ≠ some me := by
        intro same
        by_cases quorum : w.quorum = true
        · rw [if_pos quorum] at same
          exact shown ⟨quorum,Option.some.inj same⟩
        · rw [if_neg quorum] at same
          cases same
      refine ⟨r,s,by simpa [known,other] using ran,unreported,fun ⟨_,same⟩ => absurd same shown,fun _ => ⟨?_,changed⟩⟩
      rw [succeeds]
      exact (and_iff_right never).symm

/-- The promotion of the unit, before its report. -/
def promoting (charm : Charm) (force : Bool) : Hook Unit := do
  let host ← getUnitAddress charm charm.unit relationPeers
  ClusterManager.promoteInstance host force

theorem promoting_cases (wf : WellFormed w) {charm : Charm} {me : String} (addressed : Addressed charm script me)
    (force : Bool) : ∃ r s, run (respond (rules elect) script) (promoting charm force) ⟨w,[]⟩ = (r,s) ∧
      s.world.reported = false ∧
      (r = .ok () ∧ s.world.primary ≠ me ↔ ForcedElsewhere charm script me elect force w) := by
  obtain ⟨r₀,c,found,asked,known,unknown⟩ := @address_cases elect script w _ _ addressed
  have status : [c].count (.clusterStatus .own) = 0 := by rcases asked with rfl | rfl <;> simp
  have new : ∀ host, [c].count (promotingCall host force) = 0 := by
    intro host
    rcases asked with rfl | rfl <;> cases force <;> simp [promotingCall]
  rw [promoting,run_bind,found]
  rcases r₀ with e | host
  · refine ⟨.error e,_,rfl,wf.silent,iff_of_false (fun same => nomatch same.1) fun forced => ?_⟩
    cases known forced.known
  · by_cases isKnown : AddressKnown charm script
    · obtain rfl : host = me := Except.ok.inj (known isKnown)
      obtain ⟨r,s,ran,unreported,skipped,tried⟩ :=
        @run_promoteInstance elect script w _ wf host force status (new host)
      refine ⟨r,s,ran,unreported.trans wf.silent,?_⟩
      by_cases shown : Shown script host w
      · obtain ⟨_,same⟩ := skipped shown
        refine iff_of_false (fun ⟨_,other⟩ => other ?_) fun forced => forced.unseen shown
        rw [same]
        exact shown.2.2
      · obtain ⟨succeeds,changed⟩ := tried shown
        cases force with
        | false =>
          refine iff_of_false (fun ⟨promoted,other⟩ => other ?_) fun forced => nomatch forced.forced
          rw [changed promoted]
          rfl
        | true =>
          constructor
          · rintro ⟨promoted,other⟩
            rw [changed promoted] at other
            obtain ⟨status,restored,seen⟩ := succeeds.mp promoted
            exact ⟨rfl,isKnown,shown,status,seen,restored,other⟩
          · intro forced
            have promoted := succeeds.mpr ⟨forced.status,forced.restored,forced.seen⟩
            refine ⟨promoted,?_⟩
            rw [changed promoted]
            exact forced.elsewhere
    · obtain rfl : host = "" := unknown isKnown host rfl
      obtain ⟨r,s,ran,unreported,_,tried⟩ :=
        @run_promoteInstance elect script w _ wf "" force status (new "")
      have unshown : ¬ Shown script "" w := fun shown => (wf.named _ wf.led).1 shown.2.2
      have outside : "" ∉ admitted w force := by
        intro inside
        cases force with
        | true => exact (wf.named _ (wf.within _ inside)).1 rfl
        | false => exact (wf.named _ inside).1 rfl
      refine ⟨r,s,ran,unreported.trans wf.silent,iff_of_false ?_ fun forced => isKnown forced.known⟩
      rintro ⟨done,_⟩
      exact outside ((tried unshown).1.mp done).2.2

theorem promoting_unreported (charm : Charm) (force : Bool) : Avoids (· = reportCall) (promoting charm force) := by
  refine avoids_bind (avoids_getUnitAddress nofun (fun _ => nofun) _ _ _) fun host => ?_
  refine avoids_bind ?_ fun primary => avoids_ite _ (fun _ => trivial) fun _ => avoids_ite _ (fun _ => ?_) (fun _ => ?_)
  · refine avoids_tryElse (avoids_ask nofun) (fun _ => trivial) fun status => avoids_ite _ (fun _ => trivial) fun _ => ?_
    split <;> trivial
  · exact avoids_ask nofun
  · exact avoids_ask nofun

theorem still_updateState : Avoids (fun c => changes c = true) ClusterManager.updateState := by
  refine avoids_bind (avoids_ask nofun) fun role => avoids_bind (avoids_ask nofun) fun state => ?_
  exact avoids_bind (avoids_ask nofun) fun _ => avoids_ask nofun

end

/-! ### The action -/

/-- For every group, partition, election and outcome of every call. -/
theorem promotion_truthful_iff (elect : List String → String) (script : Script Call Reply Exn) (charm : Charm) (me : String)
    (addressed : Addressed charm script me) (force : Bool) (w : Group) (wf : WellFormed w) :
    Truthful me (play (rules elect) script (onPromoteUnit charm force) w).2.world ↔
      ¬ (ForcedElsewhere charm script me elect force w ∧ Reports script) := by
  obtain ⟨r,s,ran,unreported,elsewhere⟩ := @promoting_cases elect script w wf _ _ addressed force
  have unlogged : s.log.count reportCall = 0 := by
    have kept := run_count_avoids (rules elect) script (promoting_unreported charm force) rfl ⟨w,[]⟩
    rwa [ran] at kept
  have whole : (play (rules elect) script (onPromoteUnit charm force) w).2.world =
      (run (respond (rules elect) script) (promoteInstance charm force) ⟨w,[]⟩).2.world := by
    rw [play,onPromoteUnit,run_bind]
    rcases run (respond (rules elect) script) (promoteInstance charm force) ⟨w,[]⟩ with ⟨e | u,v⟩
    · rfl
    · exact run_keeps_group still_updateState v
  have parts : promoteInstance charm force = (promoting charm force).tryElse Exn.isRuntimeError
      (fun e => ask (.fail ("Failed to promote instance: " ++ e.text))) (fun _ => ask reportCall) := rfl
  rw [whole,parts,run_tryElse,ran]
  rcases r with e | u
  · have kept : ((if e.isRuntimeError = true then run (respond (rules elect) script)
        (ask (.fail ("Failed to promote instance: " ++ e.text))) s else (.error e,s) :
          Except Exn Unit × Scene Group Call)).2.world = s.world := by
      split
      · exact run_keeps_group (avoids_ask (by simp [changes])) s
      · rfl
    constructor
    · rintro _ ⟨forced,_⟩
      cases (elsewhere.mpr forced).1
    · intro _ reported
      simp only [kept,unreported] at reported
      cases reported
  · have reporting : (run (respond (rules elect) script) (ask reportCall) s).2.world =
        (rules elect).effect s.world reportCall (script.reply reportCall 0) (script.takesEffect reportCall 0) := by
      rw [run_perform,respond,unlogged]
      rfl
    have promoted : s.world.primary ≠ me ↔ ForcedElsewhere charm script me elect force w := by simpa using elsewhere
    rw [reporting,← promoted,Reports]
    rcases answered : script.reply reportCall 0 with e | a
    · by_cases happened : script.takesEffect reportCall 0 = true
      · simp [rules,happened,done,Truthful,answered]
      · simp [rules,happened,done,Truthful,answered,unreported]
    · simp [rules,done,Truthful,answered]

def promotedUnit : Charm := ⟨.vm,"mysql",2,"cluster","10.0.0.12"⟩

/-- Every call succeeds. -/
def answers : Script Call Reply Exn where
  reply c _ := match c with
    | .peersRelation => .ok (some ⟨[],[("database-peers-address","10.0.0.12")],0⟩)
    | .hostname _ => .ok "10.0.0.12"
    | _ => .ok default
  takesEffect _ _ := true

theorem addressed_answers : Addressed promotedUnit answers "10.0.0.12" where
  stored n peers host same stored := by
    cases same
    have known : PeerStateUnit.getUnitAddress [("database-peers-address","10.0.0.12")] relationPeers = some "10.0.0.12" := by
      decide
    exact Option.some.inj (stored.symm.trans known)
  resolved n host same := (Except.ok.inj same).symm

/-- Five members, of which the unit sees some, without a quorum and without the primary. -/
def partitioned (visible : List String) : Group :=
  ⟨["10.0.0.10","10.0.0.11","10.0.0.12","10.0.0.13","10.0.0.14"],visible,"10.0.0.10",false,false⟩

theorem wellFormed_partitioned {visible : List String}
    (within : ∀ host ∈ visible, host ∈ (partitioned visible).members) : WellFormed (partitioned visible) where
  led := by simp [partitioned]
  named := by
    have all : ∀ host ∈ ["10.0.0.10","10.0.0.11","10.0.0.12","10.0.0.13","10.0.0.14"], host ≠ "" ∧ ':' ∉ host.toList := by
      decide
    exact all
  within := within
  silent := rfl

theorem truthful_alone : Truthful "10.0.0.12"
    (play (rules (·.headD "")) answers (onPromoteUnit promotedUnit true) (partitioned ["10.0.0.12"])).2.world := by
  refine (promotion_truthful_iff _ answers promotedUnit "10.0.0.12" addressed_answers true _
    (wellFormed_partitioned (by simp [partitioned]))).mpr ?_
  rintro ⟨forced,_⟩
  exact forced.elsewhere (by decide)

/-- Two members remain, and the group elects the other one. -/
theorem forced_elects_other : ¬ ∀ (elect : List String → String), (∀ hosts, hosts ≠ [] → elect hosts ∈ hosts) →
    ∀ (script : Script Call Reply Exn) (charm : Charm) (me : String), Addressed charm script me →
      ∀ (force : Bool) (w : Group), WellFormed w →
        Truthful me (play (rules elect) script (onPromoteUnit charm force) w).2.world := by
  intro always
  have first : ∀ hosts : List String, hosts ≠ [] → hosts.headD "" ∈ hosts := by
    intro hosts some_
    cases hosts with
    | nil => exact absurd rfl some_
    | cons host rest => simp
  have truthful := always (·.headD "") first answers promotedUnit "10.0.0.12" addressed_answers true
    (partitioned ["10.0.0.11","10.0.0.12"]) (wellFormed_partitioned (by simp [partitioned]))
  revert truthful
  unfold Truthful
  decide +kernel

end MysqlOperators.Promotion
