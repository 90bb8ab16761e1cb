import MysqlOperators.Interleaving
import MysqlOperators.Backup
import MysqlOperators.Quiet
import Mathlib.Logic.Function.Basic

/-!
Create-backup actions on several units at once. An action isolates its instance while
it runs, and the checks of the others read in the status of the cluster whether an
instance is isolated.
-/
namespace MysqlOperators.BackupExclusion
open MysqlOperators.Program MysqlOperators.Program.Prog MysqlOperators.External MysqlOperators.Clients
open MysqlOperators.Workload MysqlOperators.Helpers MysqlOperators.Quiet MysqlOperators.Backup
open MysqlOperators.Interleaving Contract.Local

/-! ### The application -/

structure Application where
  units : List UnitId
  charm : UnitId → Charm
  manager : UnitId → BackupManager

inductive Job where
  | createBackup (force : Bool)
deriving DecidableEq, Repr

/-- An action: whether its checks have asked for the topology, whether another unit was
    isolated then, whether the action has failed, and the answers that the checks got. -/
structure Progress where
  job : Option Job
  asked : Bool
  seen : Bool
  failed : Bool
  /-- The topology listed an instance that the check recognises. -/
  recognised : Bool
  healthy : Bool
  members : Nat
  role : Option InstanceRole
deriving DecidableEq, Repr

def Progress.initial (job : Option Job) : Progress := ⟨job,false,false,false,false,false,0,none⟩

/-- What is set in each instance, and the action of each unit. -/
structure World where
  hidden : UnitId → Bool
  offline : UnitId → Bool
  hook : UnitId → Progress

/-- The message of MySQL Shell about an instance in offline mode. -/
def offlineWarning : String := "WARNING: Instance has offline_mode enabled."

namespace World

def isolated (w : World) (u : UnitId) : Bool := w.hidden u && w.offline u

end World

namespace Progress

def recognisedIn : Except Exn ClusterReport → Bool
  | .ok report => report.topology.any (fun entry => checkCluster.inProgress entry.2)
  | .error _ => false

def healthyIn : Except Exn ClusterReport → Bool
  | .ok report => report.status == .ok || report.status == .okPartial
  | .error _ => false

def membersIn : Except Exn (List String) → Nat
  | .ok members => members.length
  | .error _ => 0

/-- The state after a call, made while another unit was isolated if `others`. The first
    status that the checks ask for is the topology, the second one the health. -/
def after (p : Progress) (others : Bool) (c : Call) (r : Except Exn (Reply c)) : Progress :=
  match c,r with
  | .clusterStatus _, r =>
    if p.asked then { p with healthy := healthyIn r }
    else { p with asked := true, seen := others, recognised := recognisedIn r }
  | .searchMembers _ _, r => { p with members := membersIn r }
  | .instanceRole _, .ok role => { p with role := role }
  | .fail _, .ok _ => { p with failed := true }
  | _, _ => p

end Progress

namespace Application
variable (app : Application)

def others (w : World) (u : UnitId) : Bool := app.units.any (fun v => v != u && w.isolated v)

def label (u : UnitId) : String := getUnitLabel (app.charm u) u

/-- The entry of an instance, with what isolation adds to it. -/
def shown (w : World) (entry : String × InstanceInfo) : String × InstanceInfo :=
  if app.units.any (fun v => app.label v == entry.1 && w.isolated v) then
    (entry.1,{ entry.2 with
      instanceErrors := some (entry.2.instanceErrors.getD [] ++ [offlineWarning]), hiddenFromRouter := some true })
  else entry

def program (u : UnitId) : Job → Hook Unit
  | .createBackup force => onCreateBackup (app.charm u) (app.manager u) force

def answer (w : World) (_ : UnitId) : (c : Call) → Except Exn (Reply c) → Except Exn (Reply c)
  | .clusterStatus _, .ok report => .ok { report with topology := report.topology.map (app.shown w) }
  | _, r => r

/-- The settings that isolate an instance and give it back. -/
def change (w : World) (u : UnitId) : Call → World
  | .updateInstance _ option value =>
    if option = "tag:_hidden" then { w with hidden := Function.update w.hidden u (value == "true") } else w
  | .setVariable _ name value =>
    if name = "offline_mode" then { w with offline := Function.update w.offline u (value == "ON") } else w
  | _ => w

def effect (w : World) (u : UnitId) (c : Call) (r : Except Exn (Reply c)) (happened : Bool) : World :=
  let changed := match r with
    | .ok _ => change w u c
    | .error _ => if happened then change w u c else w
  { changed with hook := Function.update w.hook u ((w.hook u).after (app.others w u) c r) }

def begin_ (w : World) (u : UnitId) (job : Job) : Option World :=
  some { w with hook := Function.update w.hook u (.initial (some job)) }

def finish (w : World) (u : UnitId) (_ : Job) (_ : Except Exn Unit) : World :=
  { w with hook := Function.update w.hook u (.initial none) }

def system : System UnitId Job Call Reply Exn Unit World Empty where
  program := app.program
  answer := app.answer
  effect := app.effect
  begin_ := begin_
  finish := finish
  act _ := nofun

end Application

/-- A call that uploads something or isolates the instance. -/
def proceeds : Call → Bool
  | .uploadFile _ _ _ => true
  | .updateInstance _ option value => option == "tag:_hidden" && value == "true"
  | .setVariable _ name value => name == "offline_mode" && value == "ON"
  | _ => false

/-- An unforced action that has asked for the topology while another unit was isolated. -/
def Progress.excluded (p : Progress) : Bool := p.job == some (.createBackup false) && p.seen

/-- Such an action fails, and before that it neither uploads nor isolates anything. -/
def Refused (s : State UnitId Job Call Reply Exn Unit World) : Prop :=
  ∀ u, (s.world.hook u).excluded = true →
    (∀ c, s.next u = some c → proceeds c = false) ∧ (∀ a, s.returned u = some a → (s.world.hook u).failed = true)

/-- The answers so far let the checks refuse: an instance was recognised, the cluster is
    not healthy, or the own instance is the primary of several members. -/
def Progress.refusable (p : Progress) : Bool :=
  p.recognised || !p.healthy || (p.role == some .primary && decide (1 < p.members))

/-- Such an action gets an answer by which the checks refuse it: if the state of its
    instance is ONLINE, one of the answers before. -/
def otherwise : Condition UnitId Call Reply Exn World Empty where
  call w u c r _ :=
    match c,r with
    | .instanceState _, .ok state => !(w.hook u).excluded || state != some .online || (w.hook u).refusable
    | _, _ => true
  act _ := nofun

/-! ### The contract -/

section
variable (app : Application)

def contract : Contract UnitId Call Reply Exn World Empty where
  condition := otherwise
  inv _ := True
  guarantee u w w' := ∀ v, v ≠ u → w'.hook v = w.hook v
  environment _ _ := False
  safe w u c := (w.hook u).excluded = true → proceeds c = false

def duties : Contract.Duties UnitId Job Exn Unit World where
  starts u job w := (w.hook u).job = some job ∧ (w.hook u).asked = false
  ends u _ r w := (w.hook u).excluded = true → ∀ a, r = .ok a → (w.hook u).failed = true

/-- The knowledge of a unit about its action. -/
def Known (u : UnitId) (P : Progress → Prop) (w : World) : Prop := P (w.hook u)

variable {app} {u : UnitId} {α β : Type} {P : Progress → Prop}

theorem stable_known : contract.Stable u (Known u P) := by
  rintro w w' _ _ known (impossible | ⟨v,other,guarantee⟩)
  · exact impossible.elim
  · show P (w'.hook u)
    rw [guarantee u (Ne.symm other)]
    exact known

theorem hook_effect (w : World) (c : Call) (r : Except Exn (Reply c)) (happened : Bool) :
    (app.effect w u c r happened).hook = Function.update w.hook u ((w.hook u).after (app.others w u) c r) := rfl

theorem takes_known {c : Call} {Q : Except Exn (Reply c) → Progress → Prop}
    (safe : ∀ p, P p → p.excluded = true → proceeds c = false)
    (learns : ∀ w r happened, P (w.hook u) → otherwise.call w u c r happened = true →
      Q r ((w.hook u).after (app.others w u) c r)) :
    contract.Takes app.system u c (Known u P) (fun r => Known u (Q r)) := by
  intro w _ known
  refine ⟨safe (w.hook u) known,fun raw happened allowed => ⟨trivial,fun v other => ?_,?_⟩⟩
  · show (app.effect w u c _ happened).hook v = _
    rw [hook_effect,Function.update_of_ne other]
  · show Q _ ((app.effect w u c _ happened).hook u)
    rw [hook_effect,Function.update_self]
    exact learns w _ happened known allowed

variable (app u) in
/-- The knowledge of a unit, for the rules. -/
def view : Contract.Local contract app.system u Progress where
  knows := Known u
  mono weaker known := weaker _ known
  stable _ := stable_known
  void _ := takes_known (fun _ gone => gone.elim) (fun _ _ _ gone _ => gone)

theorem goes_call {c : Call} {Q : Except Exn (Reply c) → Progress → Prop}
    (safe : ∀ p, P p → p.excluded = true → proceeds c = false)
    (learns : ∀ w r happened, P (w.hook u) → otherwise.call w u c r happened = true →
      Q r ((w.hook u).after (app.others w u) c r)) : (view app u).Goes (ask c) P Q :=
  goes_perform (takes_known safe learns)

/-- Calls that tell nothing about the action. -/
def plain : Call → Bool
  | .clusterStatus _ | .searchMembers _ _ | .instanceRole _ | .fail _ => false
  | .uploadFile _ _ _ | .updateInstance _ _ _ | .setVariable _ _ _ => false
  | _ => true

theorem after_plain {c : Call} (calm : plain c = true) (p : Progress) (others : Bool) (r : Except Exn (Reply c)) :
    p.after others c r = p := by
  unfold Progress.after
  split <;> first | rfl | cases calm

theorem proceeds_plain {c : Call} (calm : plain c = true) : proceeds c = false := by
  unfold proceeds
  split <;> first | rfl | cases calm

theorem goes_plain {p : Hook α} (avoids : Avoids (fun c => plain c = false) p) :
    (view app u).Goes p P (fun _ => P) := by
  have takes (c : Call) (calm : plain c = true) : contract.Takes app.system u c (Known u P) (fun _ => Known u P) := by
    refine takes_known (fun _ _ _ => proceeds_plain calm) (fun w r _ holds _ => ?_)
    rw [after_plain calm]
    exact holds
  exact goes_frame (fun c calm => takes c (by simpa using calm)) avoids

/-! ### Actions that may go on -/

/-- The action is forced, or has seen no other unit isolated. -/
def Free (p : Progress) : Prop := p.excluded = false ∧ (p.asked = true ∨ p.job ≠ some (.createBackup false))

theorem after_free {p : Progress} (free : Free p) (others : Bool) (c : Call) (r : Except Exn (Reply c)) :
    Free (p.after others c r) := by
  obtain ⟨excluded,settled⟩ := free
  unfold Progress.after
  split
  · split
    · exact ⟨excluded,settled⟩
    · rename_i fresh
      have forced : p.job ≠ some (.createBackup false) := settled.resolve_left fresh
      exact ⟨by simp [Progress.excluded,forced],.inr forced⟩
  all_goals exact ⟨excluded,settled⟩

theorem goes_free (p : Hook α) : (view app u).Goes p Free (fun _ => Free) := by
  have takes (c : Call) : contract.Takes app.system u c (Known u Free) (fun _ => Known u Free) := by
    refine takes_known (fun p free excluded => ?_) (fun w r _ free _ => after_free free _ c r)
    rw [free.1] at excluded
    cases excluded
  exact goes_frame (fun c _ => takes c) (avoids_of_never p)

/-! ### Actions that are checked -/

/-- The action has failed, if it was to be refused. -/
def Over (p : Progress) : Prop := p.excluded = true → p.failed = true

theorem over_of_free {p : Progress} (free : Free p) : Over p := by
  intro excluded
  rw [free.1] at excluded
  cases excluded

/-- An unforced action, before its checks ask for the topology and after that. -/
def Unforced (asked : Bool) (p : Progress) : Prop := p.job = some (.createBackup false) ∧ p.asked = asked

/-- The check of the cluster has passed. -/
def Sound (p : Progress) : Prop := Unforced true p ∧ p.recognised = false ∧ p.healthy = true

theorem goes_fail (message : String) : (view app u).Goes (ask (.fail message)) P (fun r p => r = .ok () → Over p) := by
  refine goes_call (fun _ _ _ => rfl) (fun w r _ _ _ answered => ?_)
  rw [answered]
  exact fun _ => rfl

theorem plain_of_probes (c : Call) (asks : probes c = true) : ¬ plain c = false := by
  unfold probes at asks
  split at asks <;> first | contradiction | simp [plain]

theorem goes_fetchInstances : (view app u).Goes (ClusterClient.fetchInstances .own) (Unforced false)
    (fun r p => Unforced true p ∧ ∀ instances, r = .ok instances →
      p.recognised = instances.any (fun entry => checkCluster.inProgress entry.2)) := by
  have asks : (view app u).Goes (ask (.clusterStatus .own)) (Unforced false)
      (fun r p => Unforced true p ∧ p.recognised = Progress.recognisedIn r) := by
    refine goes_call (fun _ _ _ => rfl) (fun w r _ known _ => ?_)
    simp only [Progress.after,known.2]
    exact ⟨⟨known.1,rfl⟩,rfl⟩
  refine goes_tryElse asks (fun e _ => goes_pure fun p known => ⟨known.1,fun instances same => ?_⟩)
    (fun report => goes_pure fun p known => ⟨known.1,fun instances same => ?_⟩) (fun _ _ _ known => ⟨known.1,nofun⟩)
  · cases same
    exact known.2
  · cases same
    exact known.2

theorem goes_fetchState {found : Bool} : (view app u).Goes ClusterClient.fetchState
    (fun p => Unforced true p ∧ p.recognised = found)
    (fun r p => (Unforced true p ∧ p.recognised = found) ∧
      ∀ state, r = .ok state → (state = some .ok ∨ state = some .okPartial) → p.healthy = true) := by
  have asks : (view app u).Goes (ask (.clusterStatus .own)) (fun p => Unforced true p ∧ p.recognised = found)
      (fun r p => (Unforced true p ∧ p.recognised = found) ∧ p.healthy = Progress.healthyIn r) := by
    refine goes_call (fun _ _ _ => rfl) (fun w r _ known _ => ?_)
    simp only [Progress.after,known.1.2,if_true]
    exact ⟨⟨⟨known.1.1,rfl⟩,known.2⟩,trivial⟩
  refine goes_tryElse asks (fun e _ => goes_pure fun p known => ⟨known.1,fun state same healthy => ?_⟩)
    (fun report => goes_pure fun p known => ⟨known.1,fun state same healthy => ?_⟩) (fun _ _ _ known => ⟨known.1,nofun⟩)
  · cases same
    rcases healthy with impossible | impossible <;> cases impossible
  · cases same
    rw [known.2]
    simpa [Progress.healthyIn] using healthy

theorem goes_checkCluster : (view app u).Goes checkCluster (Unforced false) (fun r p => r = .ok () → Sound p) := by
  refine goes_bind goes_fetchInstances (fun instances => ?_) (fun _ _ _ => nofun)
  refine goes_bind (goes_pre goes_fetchState fun p known => ⟨known.1,known.2 instances rfl⟩) (fun state => ?_)
    (fun _ _ _ => nofun)
  refine goes_ite _ (fun _ => goes_raise fun _ _ => nofun) (fun healthy => ?_)
  cases found : instances.find? (fun entry => checkCluster.inProgress entry.2) with
  | some entry => exact goes_raise fun _ _ => nofun
  | none =>
    refine goes_pure fun p known _ => ⟨known.1.1,?_,known.2 state rfl (by tauto)⟩
    rw [known.1.2,List.any_eq_false]
    exact List.find?_eq_none.mp found

/-- The last query comes after answers that let every other check pass, and the state
    that it gets decides. -/
theorem goes_checkInstance : (view app u).Goes checkInstance Sound
    (fun r p => r = .ok () → p.excluded = false ∧ Unforced true p) := by
  have count : (view app u).Goes (InstanceClient.countClusterMembers []) Sound
      (fun r p => Sound p ∧ ∀ members, r = .ok members → p.members = members) := by
    have asks : (view app u).Goes (ask (.searchMembers .own [])) Sound
        (fun r p => Sound p ∧ p.members = Progress.membersIn r) :=
      goes_call (fun _ _ _ => rfl) (fun w r _ known _ => ⟨known,rfl⟩)
    refine goes_tryElse asks (fun e _ => goes_pure fun p known => ⟨known.1,fun members same => ?_⟩)
      (fun listed => goes_pure fun p known => ⟨known.1,fun members same => ?_⟩) (fun _ _ _ known => ⟨known.1,nofun⟩)
    · cases same
      exact known.2
    · cases same
      exact known.2
  have role (members : Nat) : (view app u).Goes InstanceClient.fetchRole (fun p => Sound p ∧ p.members = members)
      (fun r p => (Sound p ∧ p.members = members) ∧ ∀ role, r = .ok role → p.role = role) := by
    refine goes_call (fun _ _ _ => rfl) (fun w r _ known _ => ?_)
    cases r with
    | error e => exact ⟨known,nofun⟩
    | ok role => exact ⟨known,fun _ same => by cases same; rfl⟩
  have online : (view app u).Goes InstanceClient.fetchState (fun p => Unforced true p ∧ p.refusable = false)
      (fun r p => Unforced true p ∧ (r = .ok (some .online) → p.excluded = false)) := by
    refine goes_call (fun _ _ _ => rfl) (fun w r _ known allowed => ⟨known.1,fun answered => ?_⟩)
    rw [answered] at allowed ⊢
    simpa [otherwise,Progress.after,known.2] using allowed
  refine goes_bind count (fun members => ?_) (fun _ _ _ => nofun)
  refine goes_bind (goes_pre (role members) fun p known => ⟨known.1,known.2 members rfl⟩) (fun role => ?_)
    (fun _ _ _ => nofun)
  refine goes_ite _ (fun _ => goes_raise fun _ _ => nofun) (fun secondary => ?_)
  refine goes_bind (goes_pre online fun p known => ?_) (fun state => ?_) (fun _ _ _ => nofun)
  · obtain ⟨⟨⟨unforced,recognised,healthy⟩,counted⟩,answered⟩ := known
    refine ⟨unforced,?_⟩
    simp only [Progress.refusable,recognised,healthy,counted,answered role rfl]
    simpa using secondary
  · refine goes_ite _ (fun _ => goes_raise fun _ _ => nofun) (fun same => goes_pure fun p known _ => ?_)
    exact ⟨known.2 (by rw [not_not.mp same]),known.1⟩

theorem goes_runChecks : (view app u).Goes (runChecks false) (Unforced false)
    (fun r p => (r = .ok true → Free p) ∧ (r = .ok false → Over p)) := by
  have checks : (view app u).Goes (do checkCluster; checkInstance) (Unforced false)
      (fun r p => r = .ok () → p.excluded = false ∧ Unforced true p) := by
    refine goes_bind goes_checkCluster (fun _ => ?_) (fun _ _ _ => nofun)
    exact goes_pre goes_checkInstance (fun _ known => known rfl)
  refine goes_tryElse checks (fun e _ => ?_) (fun _ => ?_) (fun _ _ _ _ => ⟨nofun,nofun⟩)
  · refine goes_bind (goes_fail _) (fun _ => goes_pure fun p failed => ⟨nofun,fun _ => failed rfl⟩)
      (fun _ _ _ => ⟨nofun,nofun⟩)
  · refine goes_pure fun p passed => ⟨fun _ => ?_,nofun⟩
    obtain ⟨excluded,_,asked⟩ := passed rfl
    exact ⟨excluded,.inl asked⟩

theorem goes_prepare (charm : Charm) (m : BackupManager) : (view app u).Goes (prepare charm m false) (Unforced false)
    (fun r p => (∀ found, r = .ok (some found) → Free p) ∧ (r = .ok none → Over p)) := by
  have skipped (reason : String) : (view app u).Goes (do skip reason; pure none) (Unforced false)
      (fun r p => (∀ found : String × String, r = .ok (some found) → Free p) ∧ (r = .ok none → Over p)) :=
    goes_bind (goes_fail _) (fun _ => goes_pure fun p failed => ⟨nofun,fun _ => failed rfl⟩)
      (fun _ _ _ => ⟨nofun,nofun⟩)
  refine goes_bind (goes_plain (avoids_ask nofun)) (fun _ => goes_ite _ (fun _ => ?_) (fun _ => skipped _))
    (fun _ _ _ => ⟨nofun,nofun⟩)
  refine goes_bind (goes_plain (avoids_initialized plain_of_probes nofun nofun charm))
    (fun _ => goes_ite _ (fun _ => ?_) (fun _ => skipped _)) (fun _ _ _ => ⟨nofun,nofun⟩)
  refine goes_bind (goes_plain (avoids_ask nofun)) (fun _ => goes_ite _ (fun _ => skipped _) (fun _ => ?_))
    (fun _ _ _ => ⟨nofun,nofun⟩)
  refine goes_bind goes_runChecks (fun passed => goes_ite _ (fun yes => ?_) (fun no => ?_)) (fun _ _ _ => ⟨nofun,nofun⟩)
  · refine goes_pre (goes_post (goes_free _) fun r p free => ?_) (fun p known => known.1 (by rw [yes]))
    exact ⟨fun _ _ => free,fun _ => over_of_free free⟩
  · refine goes_pure fun p known => ⟨nofun,fun _ => known.2 ?_⟩
    simpa using no

theorem goes_onCreateBackup (charm : Charm) (m : BackupManager) (force : Bool) :
    (view app u).Goes (onCreateBackup charm m force) (fun p => p.job = some (.createBackup force) ∧ p.asked = false)
      (fun r p => p.excluded = true → ∀ a, r = .ok a → p.failed = true) := by
  cases force with
  | true =>
    refine goes_pre (goes_post (goes_free _) fun r p free excluded => ?_) (fun p known => ?_)
    · exact fun _ _ => over_of_free free excluded
    · exact ⟨by simp [Progress.excluded,known.1],.inr (by simp [known.1])⟩
  | false =>
    refine goes_bind (goes_prepare charm m) (fun prepared => ?_) (fun _ _ _ _ => nofun)
    cases prepared with
    | none => exact goes_pure fun p known excluded _ _ => known.2 rfl excluded
    | some prepared =>
      refine goes_pre (goes_post (goes_free _) fun r p free excluded => ?_) (fun p known => known.1 prepared rfl)
      exact fun _ _ => over_of_free free excluded

theorem fulfils : contract.Fulfils app.system duties where
  begins w u job w' _ begun := by
    cases begun
    exact ⟨trivial,fun v other => Function.update_of_ne other ..,by simp [Progress.initial],by simp [Progress.initial]⟩
  finishes w u _ _ _ _ := ⟨trivial,fun v other => Function.update_of_ne other ..⟩
  acts _ a := nomatch a
  jobs u job := by
    cases job with
    | createBackup force => exact goes_onCreateBackup (app.charm u) (app.manager u) force
  lasts u job r := @stable_known u (fun p => p.excluded = true → ∀ a, r = .ok a → p.failed = true)

end

/-- From every world in which no action is under way, in every order of actions on any
    units whose steps meet the condition. -/
theorem refused_of_otherwise (app : Application) (w : World) (labels : List (Label UnitId Job Call Reply Exn Empty))
    (allowed : app.system.allAllowed otherwise (idle w) labels = true) :
    Refused (app.system.run (idle w) labels) := by
  have bound := Contract.bound_run (@fulfils app) (Contract.bound_idle trivial) labels allowed
  intro u excluded
  refine ⟨fun c next => Contract.safe_of_bound bound next excluded,fun a returned => ?_⟩
  obtain ⟨job,owed⟩ := Contract.ends_of_bound bound returned
  exact owed excluded a rfl

/-- Three units that run on machines. -/
def trio : Application where
  units := [0,1,2]
  charm u := ⟨.vm,"mysql",u,"cluster",""⟩
  manager _ := ⟨.vm,some ⟨"bucket","backups",none,[],[]⟩⟩

def resting : World := ⟨fun _ => false,fun _ => false,fun _ => .initial none⟩

/-- Every call succeeds, all instances are members, and a unit that acts is a secondary. -/
def replies (state : InstanceState) : (c : Call) → Except Exn (Reply c)
  | .relation _ => .ok true
  | .snapPresent => .ok true
  | .snapServiceActive => .ok true
  | .clusterLabels _ => .ok ["cluster"]
  | .appData _ => .ok (some "cluster")
  | .clusterStatus _ => .ok ⟨.primary,.ok,some "10.0.0.1:3306",
      [("mysql-0",⟨.online,"R/W",none,none⟩),("mysql-1",⟨.online,"R/O",none,none⟩),
       ("mysql-2",⟨.online,"R/O",none,none⟩)]⟩
  | .searchMembers _ _ => .ok ["a","b","c"]
  | .instanceRole _ => .ok (some .secondary)
  | .instanceState _ => .ok (some state)
  | _ => .ok default

/-- The second unit acts until it is isolated, then the third one begins to act. -/
def secondAction (state : InstanceState) : List (Label UnitId Job Call Reply Exn Empty) :=
  .start 1 (.createBackup false) :: List.replicate 21 (.call 1 (replies .online) false) ++
    .start 2 (.createBackup false) :: List.replicate 16 (.call 2 (replies state) false)

theorem refused_recovering :
    ((trio.system.run (idle resting) (secondAction .recovering)).world.hook 2).excluded = true ∧
      Refused (trio.system.run (idle resting) (secondAction .recovering)) :=
  ⟨by decide +kernel,refused_of_otherwise trio resting (secondAction .recovering) (by decide +kernel)⟩

/-- The text that the check looks for is only a part of the message in the list. -/
theorem secondAction_proceeds :
    ¬ ∀ (app : Application) (w : World) (labels : List (Label UnitId Job Call Reply Exn Empty)),
      Refused (app.system.run (idle w) labels) := by
  intro always
  have uploads : ((trio.system.run (idle resting) (secondAction .online)).next 2).map proceeds = some true := by
    decide +kernel
  obtain ⟨c,next,proceed⟩ := Option.map_eq_some_iff.mp uploads
  have halted := (always trio resting (secondAction .online) 2 (by decide +kernel)).1 c next
  rw [proceed] at halted
  cases halted

end MysqlOperators.BackupExclusion
