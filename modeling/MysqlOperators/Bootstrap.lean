import MysqlOperators.Interleaving
import MysqlOperators.FirstStart
import Mathlib.Logic.Function.Basic

/-!
The cluster of an application that has just been deployed. Every unit runs its start
hook, again where it fails, and each new leader its leader-elected hook, while
leadership moves. A first start that finds that its unit leads creates the cluster;
the other units join the cluster of a member.
-/
namespace MysqlOperators.Bootstrap
open MysqlOperators.Program MysqlOperators.Program.Prog MysqlOperators.External MysqlOperators.Clients
open MysqlOperators.Workload MysqlOperators.Helpers MysqlOperators.Quiet MysqlOperators.Lifecycle
open MysqlOperators.FirstStart (Touches keeps_ask keeps_start keeps_initServerService keeps_initialized
  keeps_setOperatorUser keeps_startExporterService keeps_updateState keeps_beforeStart avoids_passwordAt)
open MysqlOperators.Interleaving Contract.Local

/-! ### The application -/

structure Application where
  units : List UnitId
  charm : UnitId → Charm

inductive Job where
  | start
  | leaderElected
deriving DecidableEq, Repr

/-- How far a start hook is: it sets up the instance, and it has found that the unit
    leads when the instance was set up. -/
inductive Phase where
  | idle
  | settingUp
  | chosen
deriving DecidableEq, Repr

/-- The leader, the units with data files, the cluster of each unit by the number of
    its creation, how many clusters have been created, how far each unit is, and which
    units have ever been chosen. -/
structure World where
  leader : Option UnitId
  files : UnitId → Bool
  cluster : UnitId → Option Nat
  created : Nat
  phase : UnitId → Phase
  chosen : UnitId → Bool

inductive Act where
  | elect (leader : Option UnitId)
  /-- A unit joins the cluster of a member. -/
  | join (u member : UnitId)
deriving DecidableEq, Repr

namespace World

/-- The creation of a cluster whose first member is the unit. -/
def founded (w : World) (u : UnitId) : World :=
  { w with created := w.created + 1, cluster := Function.update w.cluster u (some w.created) }

/-- The data files that a command leaves. -/
def touched (w : World) (u : UnitId) (s : Substrate) : Command → World
  | .deleteContents path => if path = mysqlData s then { w with files := Function.update w.files u false } else w
  | .initializeServer _ => { w with files := Function.update w.files u true }
  | _ => w

/-- What the answer about leadership means for a start hook that sets up. -/
def told (w : World) (u : UnitId) (leads : Bool) : World :=
  if w.phase u = .settingUp then
    { w with
      phase := Function.update w.phase u (if leads then .chosen else .idle)
      chosen := if leads then Function.update w.chosen u true else w.chosen }
  else w

end World

namespace Application
variable (app : Application)

def program (u : UnitId) : Job → Hook Unit
  | .start => onStart (app.charm u)
  | .leaderElected => onLeaderElected (app.charm u)

def answer (w : World) (u : UnitId) : (c : Call) → Except Exn (Reply c) → Except Exn (Reply c)
  | .isLeader, .ok _ => .ok (w.leader == some u)
  | .executeSync (.findDataFiles _), .ok _ => .ok (if w.files u then "mysql.ibd" else "")
  | _, r => r

/-- The first users are created in the set-up only. -/
def effect (w : World) (u : UnitId) (c : Call) (r : Except Exn (Reply c)) (happened : Bool) : World :=
  match c,r with
  | .isLeader, .ok leads => w.told u leads
  | .createUser _ _ _ _, _ => { w with phase := Function.update w.phase u .settingUp }
  | .createCluster _, .ok _ => w.founded u
  | .createCluster _, .error _ => if happened then w.founded u else w
  | .executeSync command, .ok _ => w.touched u (app.charm u).substrate command
  | .executeSync command, .error _ => if happened then w.touched u (app.charm u).substrate command else w
  | _, _ => w

def begin_ (w : World) (u : UnitId) (_ : Job) : Option World :=
  if u ∈ app.units then some { w with phase := Function.update w.phase u .idle } else none

def finish (w : World) (u : UnitId) (_ : Job) (_ : Except Exn Unit) : World :=
  { w with phase := Function.update w.phase u .idle }

def act (w : World) : Act → World
  | .elect leader => { w with leader := leader }
  | .join u member =>
    if w.cluster u = none then { w with cluster := Function.update w.cluster u (w.cluster member) } else w

def system : System UnitId Job Call Reply Exn Unit World Act where
  program := app.program
  answer := answer
  effect := app.effect
  begin_ := app.begin_
  finish := finish
  act := act

end Application

/-- The calls that begin the initial creation of a cluster. -/
def bootstraps : Call → Bool
  | .executeSql _ .lockTableCreation => true
  | .createCluster _ => true
  | _ => false

/-- No unit is about to create a cluster while another one is a member of one, at most
    one cluster has been created, and all members share it. -/
def OneCluster (s : State UnitId Job Call Reply Exn Unit World) : Prop :=
  (∀ u c, s.next u = some c → bootstraps c = true → ∀ v, v ≠ u → s.world.cluster v = none) ∧
    s.world.created ≤ 1 ∧
      ∀ u v c d, s.world.cluster u = some c → s.world.cluster v = some d → c = d

/-- A unit that finds that it leads when its instance is set up is the only one that
    ever has, and comes before any cluster. -/
def steady (app : Application) : Condition UnitId Call Reply Exn World Act where
  call w u c r _ :=
    match c,r with
    | .isLeader, .ok leads => w.phase u != .settingUp || !leads ||
      (app.units.all (fun v => v == u || !w.chosen v) && w.created == 0)
    | _, _ => true
  act _ _ := true

/-- No unit has run a hook yet. -/
def World.deployed (leader : Option UnitId) : World where
  leader := leader
  files _ := false
  cluster _ := none
  created := 0
  phase _ := .idle
  chosen _ := false

/-! ### The contract -/

section
variable (app : Application)

/-- At most one unit has been chosen, and the clusters have been created one by one. -/
structure Inv (w : World) : Prop where
  single : ∀ u v, w.chosen u = true → w.chosen v = true → u = v
  unit : ∀ u, w.chosen u = true → u ∈ app.units
  founded : ∀ u n, w.cluster u = some n → n < w.created
  once : w.created ≤ 1

/-- How far a unit is, and whether it is chosen to create the first cluster. -/
structure Progress where
  phase : Phase
  first : Bool
deriving DecidableEq, Repr

def World.progress (w : World) (u : UnitId) : Progress := ⟨w.phase u,w.chosen u && w.created == 0⟩

def contract : Contract UnitId Call Reply Exn World Act where
  condition := steady app
  inv := Inv app
  guarantee u w w' := (∀ v, v ≠ u → w'.phase v = w.phase v ∧ w'.chosen v = w.chosen v) ∧
    (w'.created = w.created ∨ w.chosen u = true ∧ w.created < w'.created)
  environment w w' := w'.phase = w.phase ∧ w'.chosen = w.chosen ∧ w'.created = w.created
  safe w u c := bootstraps c = true → ∀ v, v ≠ u → w.cluster v = none

def duties : Contract.Duties UnitId Job Exn Unit World where
  starts u _ _ := u ∈ app.units
  ends _ _ _ _ := True

/-- The knowledge of a unit about itself. -/
def Known (u : UnitId) (P : Progress → Prop) (w : World) : Prop := u ∈ app.units ∧ P (w.progress u)

variable {app} {u : UnitId} {α β : Type} {P : Progress → Prop}

theorem stable_known : (contract app).Stable u (Known app u P) := by
  intro w w' inv _ known moves
  refine ⟨known.1,?_⟩
  suffices same : w'.progress u = w.progress u by
    rw [same]
    exact known.2
  rcases moves with ⟨phase,chosen,created⟩ | ⟨v,other,same,created⟩
  · simp only [World.progress,phase,chosen,created]
  · obtain ⟨phase,chosen⟩ := same u (Ne.symm other)
    simp only [World.progress,phase,chosen]
    rcases created with created | ⟨creator,_⟩
    · rw [created]
    · have free : w.chosen u = false := by
        cases own : w.chosen u with
        | false => rfl
        | true => exact absurd (inv.single v u creator own) other
      rw [free,Bool.false_and,Bool.false_and]

theorem inv_same {w w' : World} (inv : Inv app w) (chosen : w'.chosen = w.chosen) (cluster : w'.cluster = w.cluster)
    (created : w'.created = w.created) : Inv app w' := by
  constructor
  · rw [chosen]
    exact inv.single
  · rw [chosen]
    exact inv.unit
  · rw [cluster,created]
    exact inv.founded
  · rw [created]
    exact inv.once

theorem touched_same (w : World) (s : Substrate) (command : Command) : (w.touched u s command).phase = w.phase ∧
    (w.touched u s command).chosen = w.chosen ∧ (w.touched u s command).cluster = w.cluster ∧
      (w.touched u s command).created = w.created := by
  unfold World.touched
  split
  · split <;> exact ⟨rfl,rfl,rfl,rfl⟩
  · exact ⟨rfl,rfl,rfl,rfl⟩
  · exact ⟨rfl,rfl,rfl,rfl⟩

/-- The unit that is told that it leads is the first one. -/
theorem told_inv {w : World} {leads : Bool} (unit : u ∈ app.units) (inv : Inv app w)
    (allowed : (w.phase u != .settingUp || !leads ||
      (app.units.all (fun v => v == u || !w.chosen v) && w.created == 0)) = true) : Inv app (w.told u leads) := by
  unfold World.told
  split
  · rename_i phase
    cases leads with
    | false => exact inv_same inv rfl rfl rfl
    | true =>
      have others : ∀ v, w.chosen v = true → v = u := by
        intro v chosen
        simp only [phase,bne_self_eq_false,Bool.not_true,Bool.false_or] at allowed
        have calm := (Bool.and_eq_true_iff.mp allowed).1
        simpa [chosen] using List.all_eq_true.mp calm v (inv.unit v chosen)
      have only : ∀ v, Function.update w.chosen u true v = true → v = u := by
        intro v chosen
        by_cases own : v = u
        · exact own
        · rw [Function.update_of_ne own] at chosen
          exact others v chosen
      refine ⟨fun v v' first second => ?_,fun v chosen => ?_,inv.founded,inv.once⟩
      · exact (only v first).trans (only v' second).symm
      · rw [only v chosen]
        exact unit
  · exact inv

/-- Calls other than the creation of a cluster. -/
theorem effect_inv {w : World} {c : Call} {r : Except Exn (Reply c)} {happened : Bool} (unit : u ∈ app.units)
    (inv : Inv app w) (other : ∀ at_, c ≠ .createCluster at_) (allowed : (steady app).call w u c r happened = true) :
    Inv app (app.effect w u c r happened) ∧ (contract app).guarantee u w (app.effect w u c r happened) := by
  have unchanged : (contract app).guarantee u w w := ⟨fun _ _ => ⟨rfl,rfl⟩,.inl rfl⟩
  have touched (command : Command) : Inv app (w.touched u (app.charm u).substrate command) ∧
      (contract app).guarantee u w (w.touched u (app.charm u).substrate command) := by
    obtain ⟨phase,chosen,cluster,created⟩ := @touched_same u w (app.charm u).substrate command
    refine ⟨inv_same inv chosen cluster created,fun v _ => ?_,.inl created⟩
    rw [phase,chosen]
    exact ⟨rfl,rfl⟩
  unfold Application.effect
  split
  · rename_i leads
    refine ⟨told_inv unit inv allowed,fun v different => ?_,.inl ?_⟩
    · unfold World.told
      split
      · refine ⟨Function.update_of_ne different ..,?_⟩
        cases leads with
        | false => rfl
        | true => exact Function.update_of_ne different ..
      · exact ⟨rfl,rfl⟩
    · unfold World.told
      split <;> rfl
  · exact ⟨inv_same inv rfl rfl rfl,fun v different => ⟨Function.update_of_ne different ..,rfl⟩,.inl rfl⟩
  · exact absurd rfl (other _)
  · exact absurd rfl (other _)
  · exact touched _
  · split
    · exact touched _
    · exact ⟨inv,unchanged⟩
  · exact ⟨inv,unchanged⟩

/-- Only the first unit creates a cluster. -/
theorem founded_inv {w : World} (inv : Inv app w) (first : (w.progress u).first = true) :
    Inv app (w.founded u) ∧ (contract app).guarantee u w (w.founded u) := by
  obtain ⟨chosen,none⟩ := Bool.and_eq_true_iff.mp first
  have created : w.created = 0 := by simpa using none
  refine ⟨⟨inv.single,inv.unit,fun v n member => ?_,?_⟩,fun v _ => ⟨rfl,rfl⟩,.inr ⟨chosen,?_⟩⟩
  · by_cases own : v = u
    · subst own
      have same : some w.created = some n := by simpa [World.founded] using member
      show n < w.created + 1
      have := Option.some.inj same
      omega
    · have before : w.cluster v = some n := by simpa [World.founded,Function.update_of_ne own] using member
      have := inv.founded v n before
      omega
  · show w.created + 1 ≤ 1
    omega
  · show w.created < w.created + 1
    omega

theorem nobody {w : World} (inv : Inv app w) (first : (w.progress u).first = true) (v : UnitId) :
    w.cluster v = none := by
  have created : w.created = 0 := by simpa using (Bool.and_eq_true_iff.mp first).2
  cases member : w.cluster v with
  | none => rfl
  | some n =>
    have := inv.founded v n member
    omega

/-! ### Rules -/

theorem takes_known {c : Call} {Q : Except Exn (Reply c) → Progress → Prop} (other : ∀ at_, c ≠ .createCluster at_)
    (safe : ∀ w, Inv app w → P (w.progress u) → (contract app).safe w u c)
    (learns : ∀ w r happened, P (w.progress u) → (steady app).call w u c r happened = true →
      Q r ((app.effect w u c r happened).progress u)) :
    (contract app).Takes app.system u c (Known app u P) (fun r => Known app u (Q r)) := by
  intro w inv known
  refine ⟨safe w inv known.2,fun raw happened allowed => ?_⟩
  obtain ⟨inv',guarantee⟩ := effect_inv known.1 inv other allowed
  exact ⟨inv',guarantee,known.1,learns w _ happened known.2 allowed⟩

variable (app u) in
/-- The knowledge of a unit, for the rules. -/
def view : Contract.Local (contract app) app.system u Progress where
  knows := Known app u
  mono weaker known := ⟨known.1,weaker _ known.2⟩
  stable _ := stable_known
  void _ := fun _ _ gone => gone.2.elim

theorem goes_call {c : Call} {Q : Except Exn (Reply c) → Progress → Prop} (other : ∀ at_, c ≠ .createCluster at_)
    (safe : ∀ w, Inv app w → P (w.progress u) → (contract app).safe w u c)
    (learns : ∀ w r happened, P (w.progress u) → (steady app).call w u c r happened = true →
      Q r ((app.effect w u c r happened).progress u)) : (view app u).Goes (ask c) P Q :=
  goes_perform (takes_known other safe learns)

/-- Calls that tell nothing about the set-up. -/
def plain : Call → Bool
  | .isLeader | .createUser _ _ _ _ | .createCluster _ => false
  | _ => true

theorem progress_plain {c : Call} (calm : plain c = true) (w : World) (r : Except Exn (Reply c)) (happened : Bool) :
    (app.effect w u c r happened).progress u = w.progress u := by
  have touched (command : Command) : (w.touched u (app.charm u).substrate command).progress u = w.progress u := by
    obtain ⟨phase,chosen,_,created⟩ := @touched_same u w (app.charm u).substrate command
    simp only [World.progress,phase,chosen,created]
  unfold Application.effect
  split
  · cases calm
  · cases calm
  · cases calm
  · cases calm
  · exact touched _
  · split
    · exact touched _
    · rfl
  · rfl

def Bootstraps (c : Call) : Prop := bootstraps c = true

theorem safe_of_mild {c : Call} (mild : ¬ Bootstraps c) (w : World) : (contract app).safe w u c :=
  fun creates => absurd creates mild

theorem not_create {c : Call} (mild : ¬ Bootstraps c) (at_ : Target) : c ≠ .createCluster at_ := by
  rintro rfl
  exact mild rfl

theorem goes_mild {c : Call} {Q : Except Exn (Reply c) → Progress → Prop} (mild : ¬ Bootstraps c)
    (learns : ∀ w r happened, P (w.progress u) → (steady app).call w u c r happened = true →
      Q r ((app.effect w u c r happened).progress u)) : (view app u).Goes (ask c) P Q :=
  goes_call (not_create mild) (fun w _ _ => safe_of_mild mild w) learns

theorem goes_plain {c : Call} (calm : plain c = true) (mild : ¬ Bootstraps c) :
    (view app u).Goes (ask c) P (fun _ => P) := by
  refine goes_mild mild (fun w r happened holds _ => ?_)
  rw [progress_plain calm]
  exact holds

/-- What creates no cluster needs to know nothing. -/
theorem goes_free {p : Hook α} (avoids : Avoids Bootstraps p) : (view app u).Goes p P (fun _ _ => True) := by
  have takes (c : Call) (mild : ¬ Bootstraps c) :
      (contract app).Takes app.system u c (Known app u (fun _ => True)) (fun _ => Known app u (fun _ => True)) :=
    takes_known (not_create mild) (fun w _ _ => safe_of_mild mild w) (fun _ _ _ _ _ => trivial)
  exact goes_pre (goes_frame takes avoids) (fun _ _ => trivial)

theorem mild_of_keeps {p : Hook α} (keeps : Avoids Touches p) : Avoids Bootstraps p := by
  refine avoids_mono (fun c creates => ?_) keeps
  unfold Bootstraps bootstraps at creates
  split at creates <;> trivial

/-! ### The set-up -/

theorem mild_setup (s : Substrate) (username password : String) :
    Avoids Bootstraps (ServerService.setup s username password) := by
  have shell (command : Command) : Avoids Bootstraps (ServerService.shell command) :=
    avoids_bind (avoids_ask nofun) fun _ => trivial
  refine avoids_bind ?_ fun _ => avoids_bind (shell _) fun _ => mild_of_keeps (keeps_setOperatorUser ..)
  cases s with
  | vm => exact avoids_forM (fun _ => avoids_bind (shell _) fun _ => shell _) _
  | k8s => exact avoids_forM (fun _ => shell _) _

theorem mild_createSystemRoles (role : String) : Avoids Bootstraps (LifecycleManager.createSystemRoles role) :=
  avoids_bind (avoids_bind (avoids_ask nofun) fun _ => trivial) fun _ => avoids_bind (avoids_ask nofun) fun _ => trivial

theorem mild_configureInstance (username password : String) :
    Avoids Bootstraps (LifecycleManager.configureInstance username password) :=
  avoids_bind (avoids_ask nofun) fun _ => avoids_ask nofun

theorem goes_createSystemUsers (backups monitor : String) : (view app u).Goes (LifecycleManager.createSystemUsers
    [⟨usernameBackups,backups,[rolenameBackups]⟩,⟨usernameMonitor,monitor,[rolenameMonitor]⟩]) P
    (fun r p => r = .ok () → p.phase = .settingUp) := by
  have created (username password : String) (roles : List String) (P : Progress → Prop) :
      (view app u).Goes (InstanceClient.createUser username password roles) P (fun _ p => p.phase = .settingUp) := by
    refine goes_mild (by exact nofun) (fun w r happened _ _ => ?_)
    exact Function.update_self ..
  refine goes_bind (goes_plain rfl nofun) (fun _ => ?_) (fun _ _ _ => nofun)
  refine goes_bind (created _ _ _ _) (fun _ => goes_bind (created _ _ _ _) (fun _ => ?_) (fun _ _ _ => nofun))
    (fun _ _ _ => nofun)
  exact goes_pure fun _ known _ => known

/-- A unit that is told that it leads in its set-up is the first one. -/
theorem goes_isLeader : (view app u).Goes isLeader (fun p => p.phase = .settingUp)
    (fun r p => r = .ok true → p.first = true) := by
  refine goes_mild (by exact nofun) (fun w r happened phase allowed answered => ?_)
  have settingUp : w.phase u = .settingUp := phase
  subst answered
  have created : (w.created == 0) = true := by
    simp only [steady,settingUp,bne_self_eq_false,Bool.not_true,Bool.false_or] at allowed
    exact (Bool.and_eq_true_iff.mp allowed).2
  simp [Application.effect,World.told,settingUp,World.progress,created]

theorem goes_recreateCluster (label : String) : (view app u).Goes (LifecycleManager.recreateCluster label)
    (fun p => p.first = true) (fun _ _ => True) := by
  have locks : (view app u).Goes ClusterClient.initLocksTable (fun p => p.first = true)
      (fun _ p => p.first = true) := by
    have asked : (view app u).Goes (ask (.executeSql .own .lockTableCreation)) (fun p => p.first = true)
        (fun _ p => p.first = true) := by
      refine goes_call nofun (fun w inv first _ v _ => nobody inv first v) (fun w r happened first _ => ?_)
      rw [progress_plain rfl]
      exact first
    exact goes_bind asked (fun _ => goes_pure fun _ => id) (fun _ _ first => first)
  have created : (view app u).Goes (ask (.createCluster .own)) (fun p => p.first = true) (fun _ _ => True) := by
    refine goes_perform (fun w inv known => ⟨fun _ v _ => nobody inv known.2 v,fun raw happened _ => ?_⟩)
    obtain ⟨inv',guarantee⟩ := founded_inv inv known.2
    have unchanged : (contract app).guarantee u w w := ⟨fun _ _ => ⟨rfl,rfl⟩,.inl rfl⟩
    cases raw with
    | ok _ => exact ⟨inv',guarantee,known.1,trivial⟩
    | error e =>
      cases happened with
      | true => exact ⟨inv',guarantee,known.1,trivial⟩
      | false => exact ⟨inv,unchanged,known.1,trivial⟩
  refine goes_bind locks (fun _ => ?_) (fun _ _ _ => trivial)
  refine goes_bind (goes_bind created (fun _ => goes_free (avoids_ask nofun)) (fun _ _ _ => trivial)) (fun _ => ?_)
    (fun _ _ _ => trivial)
  exact goes_free (avoids_bind (avoids_ask nofun) fun _ => avoids_ask nofun)

/-! ### The hooks -/

theorem goes_configureServer (charm : Charm) (passwords : Passwords) :
    (view app u).Goes (configureServer charm passwords) P (fun _ _ => True) := by
  have known (key : String) {P : Progress → Prop} : (view app u).Goes (passwordAt passwords key) P (fun _ => P) := by
    unfold passwordAt
    split
    · exact goes_raise fun _ => id
    · exact goes_pure fun _ => id
  refine goes_bind (goes_free (mild_of_keeps (keeps_start _))) (fun _ => ?_) (fun _ _ _ => trivial)
  refine goes_bind (goes_free (mild_of_keeps keeps_initServerService)) (fun _ => ?_) (fun _ _ _ => trivial)
  refine goes_bind (goes_free (mild_createSystemRoles _)) (fun _ => ?_) (fun _ _ _ => trivial)
  refine goes_bind (known _) (fun backups => goes_bind (known _) (fun monitor => ?_) (fun _ _ _ => trivial))
    (fun _ _ _ => trivial)
  refine goes_bind (goes_createSystemUsers backups monitor) (fun _ => ?_) (fun _ _ _ => trivial)
  refine goes_bind (known _) (fun replication => ?_) (fun _ _ _ => trivial)
  refine goes_bind (goes_pre goes_isLeader fun p phase => phase rfl) (fun leads => ?_) (fun _ _ _ => trivial)
  refine goes_ite _ (fun yes => ?_) (fun _ => ?_)
  · subst yes
    have configured : (view app u).Goes (LifecycleManager.configureInstance usernameReplication replication)
        (fun p => p.first = true) (fun _ p => p.first = true) :=
      goes_bind (goes_plain rfl nofun) (fun _ => goes_plain rfl nofun) (fun _ _ first => first)
    exact goes_bind (goes_pre configured fun p first => first rfl) (fun _ => goes_recreateCluster _)
      (fun _ _ _ => trivial)
  · exact goes_free (mild_configureInstance _ _)

theorem goes_onStart (charm : Charm) : (view app u).Goes (onStart charm) P (fun _ _ => True) := by
  refine goes_bind (goes_free (mild_of_keeps (keeps_beforeStart charm))) (fun passwords => ?_) (fun _ _ _ => trivial)
  cases passwords with
  | none => exact goes_pure fun _ _ => trivial
  | some passwords =>
    have served : (view app u).Goes (startServerService charm passwords) (fun _ => True) (fun _ _ => True) := by
      refine goes_bind (goes_free (mild_of_keeps (keeps_initialized _))) (fun _ => ?_) (fun _ _ _ => trivial)
      refine goes_ite _ (fun _ => ?_) (fun _ => ?_)
      · exact goes_free (avoids_bind (mild_of_keeps (keeps_start _)) fun _ => mild_of_keeps keeps_initServerService)
      · refine goes_bind (goes_free (avoids_passwordAt _ _)) (fun operator => ?_) (fun _ _ _ => trivial)
        exact goes_bind (goes_free (mild_setup ..)) (fun _ => goes_configureServer charm passwords)
          (fun _ _ _ => trivial)
    refine goes_bind served (fun _ => goes_free ?_) (fun _ _ _ => trivial)
    exact avoids_bind (mild_of_keeps (keeps_startExporterService ..)) fun _ => mild_of_keeps keeps_updateState

theorem mild_newPasswords : ∀ keys, Avoids Bootstraps (newPasswords keys)
  | [] => trivial
  | _ :: rest => avoids_bind (avoids_ask nofun) fun _ => avoids_bind (mild_newPasswords rest) fun _ => trivial

theorem mild_setName (key namePrefix : String) (name : Option String) :
    Avoids Bootstraps (LifecycleManager.setName key namePrefix name) := by
  refine avoids_bind ?_ fun stored => ?_
  · split
    · trivial
    · exact avoids_bind (avoids_ask nofun) fun _ => trivial
  · cases stored with
    | none => exact avoids_bind (avoids_ask nofun) fun _ => avoids_ask nofun
    | some name => exact avoids_ask nofun

theorem mild_onLeaderElected (charm : Charm) : Avoids Bootstraps (onLeaderElected charm) := by
  have secret : Avoids Bootstraps (SecretStore.getSecret (secretLabel charm)) :=
    avoids_tryExcept (avoids_ask nofun) fun _ => trivial
  have fetched : Avoids Bootstraps (fetchPasswords charm) :=
    avoids_tryExcept (avoids_bind secret fun _ => avoids_ask nofun) fun _ => trivial
  have named : Avoids Bootstraps (do
      LifecycleManager.setLeaderFlag true
      let name ← ask (.configValue "cluster_name")
      LifecycleManager.setClusterName name
      let setName ← ask (.configValue "cluster_set_name")
      LifecycleManager.setClusterSetName setName : Hook Unit) :=
    avoids_bind (avoids_ask nofun) fun _ => avoids_bind (avoids_ask nofun) fun _ => avoids_bind (mild_setName _ _ _)
      fun _ => avoids_bind (avoids_ask nofun) fun _ => mild_setName _ _ _
  refine avoids_bind fetched fun _ => avoids_ite _ (fun _ => ?_) (fun _ => named)
  exact avoids_bind (avoids_bind (mild_newPasswords _) fun _ => avoids_ask nofun) fun _ => named

theorem begins (w : World) (u : UnitId) (job : Job) (w' : World) (inv : Inv app w)
    (begun : app.begin_ w u job = some w') :
    Inv app w' ∧ (contract app).guarantee u w w' ∧ (duties app).starts u job w' := by
  unfold Application.begin_ at begun
  split at begun
  · rename_i unit
    cases begun
    exact ⟨inv_same inv rfl rfl rfl,⟨fun v other => ⟨Function.update_of_ne other ..,rfl⟩,.inl rfl⟩,unit⟩
  · cases begun

theorem finishes (w : World) (u : UnitId) (job : Job) (r : Except Exn Unit) (inv : Inv app w) :
    Inv app (Application.finish w u job r) ∧ (contract app).guarantee u w (Application.finish w u job r) :=
  ⟨inv_same inv rfl rfl rfl,fun _ other => ⟨Function.update_of_ne other ..,rfl⟩,.inl rfl⟩

theorem acts (w : World) (a : Act) (inv : Inv app w) :
    Inv app (Application.act w a) ∧ (contract app).environment w (Application.act w a) := by
  cases a with
  | elect leader => exact ⟨inv_same inv rfl rfl rfl,rfl,rfl,rfl⟩
  | join v member =>
    simp only [Application.act]
    split
    · refine ⟨⟨inv.single,inv.unit,fun v' n joined => ?_,inv.once⟩,rfl,rfl,rfl⟩
      by_cases own : v' = v
      · subst own
        exact inv.founded member n (by simpa using joined)
      · exact inv.founded v' n (by simpa [Function.update_of_ne own] using joined)
    · exact ⟨inv,rfl,rfl,rfl⟩

theorem fulfils : (contract app).Fulfils app.system (duties app) where
  begins := begins
  finishes w u job r inv _ := finishes w u job r inv
  acts w a inv _ := acts w a inv
  jobs u job := by
    have ended {p : Hook Unit} (goes : (view app u).Goes p (fun _ => True) (fun _ _ => True)) :
        (contract app).Outline app.system u p ((duties app).starts u job) ((duties app).ends u job) :=
      Contract.outline_post (Contract.outline_pre goes fun _ _ unit => ⟨unit,trivial⟩) (fun _ _ _ _ => trivial)
    cases job with
    | start => exact ended (goes_onStart _)
    | leaderElected => exact ended (goes_free (mild_onLeaderElected _))
  lasts u _ _ := (contract app).stable_const u True

end

/-- From the deployment of the application, in every order of hooks, elections and
    joins whose steps meet the condition. -/
theorem oneCluster_of_steady (app : Application) (leader : Option UnitId)
    (labels : List (Label UnitId Job Call Reply Exn Act))
    (allowed : app.system.allAllowed (steady app) (idle (World.deployed leader)) labels = true) :
    OneCluster (app.system.run (idle (World.deployed leader)) labels) := by
  have deployed : Inv app (World.deployed leader) := ⟨nofun,nofun,nofun,Nat.zero_le 1⟩
  have bound := Contract.bound_run (@fulfils app) (Contract.bound_idle deployed) labels allowed
  refine ⟨fun u c next creates => ?_,bound.1.once,fun u v c d first second => ?_⟩
  · exact Contract.safe_of_bound bound next creates
  · have one := bound.1.once
    have below := bound.1.founded u c first
    have below' := bound.1.founded v d second
    omega

/-- Two units that run on machines. -/
def pair : Application := ⟨[0,1],fun u => ⟨.vm,"mysql",u,"cluster",""⟩⟩

/-- Every call succeeds. -/
def replies : (c : Call) → Except Exn (Reply c)
  | .snapPresent => .ok true
  | .peekContent _ =>
    .ok [("operator-password","a"),("backups-password","b"),("monitoring-password","c"),("replication-password","d")]
  | _ => .ok default

/-- The first unit is elected and starts, and then the second one starts. -/
def starts (between : List (Label UnitId Job Call Reply Exn Act)) (calls : Nat) :
    List (Label UnitId Job Call Reply Exn Act) :=
  Label.whole 0 .leaderElected replies 20 ++ Label.whole 0 .start replies 60 ++ between ++
    .start 1 .start :: List.replicate calls (.call 1 replies false)

/-- The second unit joins the cluster of the first one in the end. -/
def joins : List (Label UnitId Job Call Reply Exn Act) := starts [] 60 ++ [.act (.join 1 0)]

theorem oneCluster_joins :
    (pair.system.run (idle (World.deployed (some 0))) joins).world.cluster 1 = some 0 ∧
      OneCluster (pair.system.run (idle (World.deployed (some 0))) joins) :=
  ⟨by decide +kernel,oneCluster_of_steady pair (some 0) joins (by decide +kernel)⟩

/-- Leadership moves between the two starts. -/
def moved : List (Label UnitId Job Call Reply Exn Act) := starts [.act (.elect (some 1))] 37

/-- Each unit looks at leadership and at its own data directory only. -/
theorem moved_creates :
    ¬ ∀ (app : Application) (leader : Option UnitId) (labels : List (Label UnitId Job Call Reply Exn Act)),
      OneCluster (app.system.run (idle (World.deployed leader)) labels) := by
  intro always
  have creates : ((pair.system.run (idle (World.deployed (some 0))) moved).next 1).map bootstraps = some true := by
    decide +kernel
  obtain ⟨c,next,begun⟩ := Option.map_eq_some_iff.mp creates
  have member : (pair.system.run (idle (World.deployed (some 0))) moved).world.cluster 0 = some 0 := by decide +kernel
  have alone := (always pair (some 0) moved).1 1 c next begun 0 (by decide)
  rw [member] at alone
  cases alone

end MysqlOperators.Bootstrap
